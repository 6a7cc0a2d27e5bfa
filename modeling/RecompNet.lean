import RecompNet.Lib.Assoc
import RecompNet.Text
import RecompNet.Json
import RecompNet.Automatch.Rulesets
import RecompNet.Automatch.Sides
import RecompNet.Automatch.Pairing
import RecompNet.Hub.Server
import RecompNet.Hub.OneTicket
import RecompNet.Hub.Exemption
import RecompNet.Hub.Login
import RecompNet.Hub.PeerLeft
import RecompNet.Hub.Writer
import RecompNet.Hub.BlockedJoin
import RecompNet.Automatch.Settling
import RecompNet.Hub.Calls
import RecompNet.Hub.Offers
import RecompNet.Hub.Guests
import RecompNet.Hub.Stale
import RecompNet.ChatFilter
import RecompNet.Hub.ChatOrder
import RecompNet.Hub.Reports
import RecompNet.Hub.Seating
import RecompNet.Hub.MatchRoom
import RecompNet.Auth.Identity
import RecompNet.Hub.OwnNames
import RecompNet.Hub.LastUpdate
import RecompNet.ReadyBarrier
import RecompNet.Hub.LobbyLimit
import RecompNet.Hub.Probes
import RecompNet.Hub.RoomEdit
import RecompNet.Hub.RowEdit
import RecompNet.Hub.JoinGate
import RecompNet.Hub.Relays
import RecompNet.Hub.ChatDelivery
import RecompNet.Hub.SeatLoss
import RecompNet.Hub.ProxyHeader
import RecompNet.Auth.Challenge
import RecompNet.Hub.RelayChoice
import RecompNet.Hub.NameFits
import RecompNet.Hub.Tickets
import RecompNet.Hub.StartTask
import RecompNet.Hub.MatchStart
import RecompNet.Lib.Scan
import RecompNet.ChatFilter.Hits
import RecompNet.ChatFilter.WordList
import RecompNet.ChatFilter.Boundaries
import RecompNet.ChatFilter.Twice
import RecompNet.ChatFilter.Spelling
import RecompNet.Fallback
import RecompNet.Automatch.Floors
import RecompNet.Lib.Ranges
import RecompNet.Lib.Bytes
import RecompNet.IpCountry.Generate
import RecompNet.IpCountry.Lookup
import RecompNet.Lib.Aging
import RecompNet.Automatch.Retention
import RecompNet.Lib.Tail
import RecompNet.Hub.Evidence
import RecompNet.Automatch.Allowlist
import RecompNet.Automatch.Titles
import RecompNet.Hub.QueueTitles
import RecompNet.Automatch.Preference
import RecompNet.Automatch.Requeue
import RecompNet.Hub.MatchLaunch
import RecompNet.Hub.Sessions
import RecompNet.Hub.Lists
import RecompNet.Hub.Consent
import RecompNet.Hub.LaunchGate
import RecompNet.Lib.TokenBucket
import RecompNet.Hub.SignalRate
import RecompNet.Hub.SeatOps
import RecompNet.Hub.ReadyMarks
import RecompNet.Hub.RefusedJoin
import RecompNet.Hub.SentCaps
import RecompNet.Hub.ReportStore
import RecompNet.Hub.Dumps
import RecompNet.Hub.GuestEndpoint
import RecompNet.Hub.EndpointText
import RecompNet.Hub.Endpoints
import RecompNet.Hub.UniqueName
import RecompNet.GameLabel
import RecompNet.Lib.Mailbox
import RecompNet.Http.Signals
import RecompNet.Http.RoomApi
import RecompNet.Http.Bootstraps
import RecompNet.Http.JoinCode
import RecompNet.Http.Admission
import RecompNet.Http.Leave
import RecompNet.IpCountry.Search
import RecompNet.Lib.Faults
import RecompNet.IpCountry.Safety
import RecompNet.Auth.LoginStore
import RecompNet.Lib.Simulation
import RecompNet.Auth.Accounts
import RecompNet.Auth.Players
import RecompNet.Auth.Logins
import RecompNet.Auth.Handout
import RecompNet.Auth.DeviceKeys
import RecompNet.Auth.Handles
import RecompNet.Auth.Refines
import RecompNet.Hub.RoomNames
