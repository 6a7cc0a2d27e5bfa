import RecompNet.Hub.BlockedJoin
import RecompNet.Hub.Origin
import RecompNet.Hub.RowEdit

/-!
# A join that is refused

A join writes the display name it carries before it looks at the room, in a section of its own. Nothing
takes the name back when the room refuses: `refused_join_iff` says when a refused join leaves the hub as it
found it. `create` makes its refusals before it writes the name.
-/

namespace RecompNet

open Section Interleave

/-- A join that comes past the gates carries no display name, or the one that its client has. -/
def KeepsName (srv : Server) (g : HubInner) (p : String) (msg : InMsg) : Prop :=
  ∀ msg', sanitize_in_place srv msg = .ok msg' → g.lobby_id_of p = none →
    ∀ name, Text.nonempty msg'.display_name = some name →
      ∀ row, g.clients.lookup p = some row → row.display_name = name

/-! ## What is heard -/

/-- A handler that runs alone takes no frame back. -/
lemma solo_sent (srv : Server) (os : List Answer) (ss : List Section) (w : World) :
    ∃ fs, ((hubMachine srv).solo os ss w).1.sent = w.sent ++ fs := by
  induction os generalizing ss w with
  | nil => exact ⟨[], (List.append_nil _).symm⟩
  | cons o os ih =>
    cases ss with
    | nil => exact ⟨[], (List.append_nil _).symm⟩
    | cons s rest =>
      obtain ⟨fs, grows⟩ := ih ((exec srv s o w).2 ++ rest) (exec srv s o w).1
      have first : (exec srv s o w).1.sent = w.sent ++ _ :=
        @exec_sent srv .automatch s o ⟨w, fun _ => []⟩
      rw [first, List.append_assoc] at grows
      exact ⟨_, grows⟩

/-- What a handler sends first is heard first. -/
lemma heard_first {srv : Server} {os : List Answer} {w w' : World} {p : String} {m : OutMsg}
    {rest : List Section} (hc : w'.hub.connected p) (same : w'.sent = w.sent)
    (done : ((hubMachine srv).solo os (send_to p m :: rest) w').2 = []) :
    ∃ ms, heard w ((hubMachine srv).solo os (send_to p m :: rest) w').1 p = m :: ms := by
  cases os with
  | nil => cases done
  | cons o os =>
    obtain ⟨fs, grows⟩ := solo_sent srv os rest (w'.send p m)
    have run : (hubMachine srv).solo (o :: os) (send_to p m :: rest) w' =
        (hubMachine srv).solo os rest (w'.send p m) := Machine.solo_cons ..
    rw [run, heard, grows, send_sent, frameTo, if_pos hc, same, List.append_assoc,
      List.drop_left]
    exact ⟨(fs.filter (·.1 = p)).map (·.2), by simp⟩

/-- A handler that is heard to answer with an error, and with nothing else, sends no other frame first. -/
lemma heard_first_error {srv : Server} {os : List Answer} {w w' : World} {p : String} {m : OutMsg}
    {rest : List Section} {code : Code} (hc : w'.hub.connected p) (same : w'.sent = w.sent)
    (done : ((hubMachine srv).solo os (send_to p m :: rest) w').2 = [])
    (told : heard w ((hubMachine srv).solo os (send_to p m :: rest) w').1 p = [.error code]) :
    m = .error code := by
  obtain ⟨ms, first⟩ := heard_first hc same done
  exact (List.cons.inj (first.symm.trans told)).1

/-- Who is not connected hears nothing. -/
lemma solo_unheard {srv : Server} {os : List Answer} {ss : List Section} {w : World} {p : String}
    (away : ¬ w.hub.connected p) : heard w ((hubMachine srv).solo os ss w).1 p = [] := by
  obtain ⟨fs, grows, none⟩ : ∃ fs, ((hubMachine srv).solo os ss w).1.sent = w.sent ++ fs ∧
      ∀ x ∈ fs, x.1 ≠ p := by
    induction os generalizing ss w with
    | nil => exact ⟨[], (List.append_nil _).symm, List.forall_mem_nil _⟩
    | cons o os ih =>
      cases ss with
      | nil => exact ⟨[], (List.append_nil _).symm, List.forall_mem_nil _⟩
      | cons s rest =>
        have away' : ¬ (exec srv s o w).1.hub.connected p := by
          intro back
          obtain ⟨c', hc'⟩ := connected_iff.mp back
          obtain ⟨c, hc, -⟩ := @exec_row srv s o w p c' hc'
          exact away (connected_iff.mpr ⟨c, hc⟩)
        obtain ⟨fs, grows, none⟩ := @ih ((exec srv s o w).2 ++ rest) _ away'
        have first : (exec srv s o w).1.sent = w.sent ++ _ :=
          @exec_sent srv .automatch s o ⟨w, fun _ => []⟩
        rw [first, List.append_assoc] at grows
        refine ⟨_, grows, fun x hx => ?_⟩
        rcases List.mem_append.mp hx with hx | hx
        · rintro rfl
          exact away (mem_frames hx).1
        · exact none x hx
  rw [heard, grows, List.drop_left, List.filter_eq_nil_iff.mpr, List.map_nil]
  intro x hx
  simpa using none x hx

lemma connected_of_answered {srv : Server} {os : List Answer} {w : World} {p ip : String}
    {msg : InMsg} {code : Code} (answered : repliesTo srv os w p ip msg = ([.error code], [])) :
    w.hub.connected p := by
  by_contra away
  have told := congrArg Prod.fst answered
  rw [repliesTo, solo_unheard away] at told
  cases told

/-! ## What is written -/

/-- The checks of a join that refuse it write nothing. -/
lemma joinOutcome_refuses {srv : Server} {o : Answer} {g g' : HubInner} {p ip lid : String}
    {msg : InMsg} {code : Code} (h : joinOutcome srv o g p ip lid msg = (g', .Err code)) : g' = g := by
  have ends := join_ends srv o g p ip lid msg
  rw [h] at ends
  cases ends with
  | refused => rfl

lemma connected_setClient {g : HubInner} {p q : String} {f : ClientMeta → ClientMeta} :
    (g.setClient p f).connected q = g.connected q := by
  simp only [HubInner.setClient, HubInner.connected, Assoc.Map.lookup_modify]
  split
  · rw [Option.isSome_map]
  · rfl

/-- A join signs nobody off. -/
lemma joinOutcome_connected {srv : Server} {o : Answer} {g : HubInner} {p ip lid q : String}
    {msg : InMsg} : (joinOutcome srv o g p ip lid msg).1.connected q = g.connected q := by
  have ends := join_ends srv o g p ip lid msg
  generalize joinOutcome srv o g p ip lid msg = out at ends ⊢
  cases ends with
  | refused => rfl
  | seated => exact connected_setClient

/-- A join whose room answers with an error writes nothing to the hub. -/
lemma join_seat_refused {srv : Server} {os : List Answer} {w w' : World} {p ip lid : String}
    {msg : InMsg} {code : Code} (hc : w'.hub.connected p) (same : w'.sent = w.sent)
    (done : ((hubMachine srv).solo os [join_seat p ip lid msg] w').2 = [])
    (told : heard w ((hubMachine srv).solo os [join_seat p ip lid msg] w').1 p = [.error code]) :
    ((hubMachine srv).solo os [join_seat p ip lid msg] w').1.hub = w'.hub := by
  cases os with
  | nil => cases done
  | cons o os =>
    have step : (hubMachine srv).solo (o :: os) [join_seat p ip lid msg] w' =
        (hubMachine srv).solo os ((join_seat_step srv o w'.hub p ip lid msg).2 ++ [])
          (w'.setHub (join_seat_step srv o w'.hub p ip lid msg).1) := rfl
    rw [step] at done told ⊢
    have here : (joinOutcome srv o w'.hub p ip lid msg).1.connected p := joinOutcome_connected.trans hc
    cases outcome : joinOutcome srv o w'.hub p ip lid msg with
    | mk g result =>
      rw [outcome] at here
      cases result with
      | Err code' =>
        have seat : join_seat_step srv o w'.hub p ip lid msg =
            (w'.hub, [send_to p (.error code')]) := by
          simp only [join_seat_step, outcome, joinOutcome_refuses outcome]
          rfl
        rw [seat] at done ⊢
        cases os with
        | nil => cases done
        | cons o' os =>
          rw [List.append_nil, solo_send]
          exact World.send_hub ..
      | NeedMods mods xfer =>
        have seat : join_seat_step srv o w'.hub p ip lid msg =
            (g, [join_need_mods p lid mods xfer]) := by
          simp only [join_seat_step, outcome]
        rw [seat] at done told
        cases os with
        | nil => cases done
        | cons o' os =>
          let w'' := (exec srv (join_need_mods p lid mods xfer) o' (w'.setHub g)).1
          have still : w''.hub.connected p := connected_setClient.trans here
          cases @heard_first_error srv os w w'' p _ _ code still same done told
      | Ok seated =>
        have seat : join_seat_step srv o w'.hub p ip lid msg = (g, [join_ok p lid seated]) := by
          simp only [join_seat_step, outcome]
        rw [seat] at done told
        cases os with
        | nil => cases done
        | cons o' os =>
          let w'' := (exec srv (join_ok p lid seated) o' (w'.setHub g)).1
          have still : w''.hub.connected p := connected_setClient.trans here
          cases @heard_first_error srv os w w'' p _ _ code still same done told

/-- The first section of a join writes nothing. -/
lemma handle_join_hub {g : HubInner} {p ip : String} {msg : InMsg} :
    (handle_join g p ip msg).1 = g := by
  unfold handle_join
  split
  · rfl
  · split <;> rfl

/-- A join that was past the gates and answered with an error has written its name at most. -/
lemma handle_join_refused {srv : Server} {os : List Answer} {w : World} {p ip : String}
    {msg : InMsg} {code : Code} (hc : w.hub.connected p)
    (done : ((hubMachine srv).solo os (handle_join w.hub p ip msg).2 w).2 = [])
    (told : heard w ((hubMachine srv).solo os (handle_join w.hub p ip msg).2 w).1 p = [.error code]) :
    ((hubMachine srv).solo os (handle_join w.hub p ip msg).2 w).1.hub =
      if (w.hub.lobby_id_of p).isSome then w.hub
      else ((Text.nonempty msg.display_name).map fun name =>
        (handle_set_display_name w.hub p name).1).getD w.hub := by
  unfold handle_join at done told ⊢
  cases hlid : Text.nonempty msg.lobby_id with
  | none =>
    simp only [hlid] at done told
    cases heard_first_error hc rfl done told
  | some lid =>
    simp only [hlid] at done told ⊢
    by_cases inside : (w.hub.lobby_id_of p).isSome
    · simp only [if_pos inside] at done told ⊢
      cases os with
      | nil => cases done
      | cons o os =>
        rw [refuse, solo_send]
        exact World.send_hub ..
    · simp only [if_neg inside] at done told ⊢
      cases hn : Text.nonempty msg.display_name with
      | none =>
        rw [hn] at done told
        exact join_seat_refused hc rfl done told
      | some name =>
        rw [hn] at done told
        cases os with
        | nil => cases done
        | cons o os =>
          have renamed : (w.setHub (handle_set_display_name w.hub p name).1).hub.connected p :=
            connected_rename.trans hc
          exact join_seat_refused renamed rfl done told

/-- Writing a name leaves the hub as it is when the client has that name. -/
lemma set_display_name_eq_self {g : HubInner} {p name : String} :
    (handle_set_display_name g p name).1 = g ↔
      ∀ row, g.clients.lookup p = some row → row.display_name = name := by
  constructor
  · intro same row hrow
    have after : (handle_set_display_name g p name).1.clients.lookup p =
        some { row with display_name := name } := by
      rw [handle_set_display_name, HubInner.setClient, Assoc.Map.lookup_modify_self, hrow]
      rfl
    rw [same, hrow] at after
    exact congrArg ClientMeta.display_name (Option.some.inj after)
  · intro kept
    have rows : g.clients.modify p ({ · with display_name := name }) = g.clients := by
      refine Assoc.Map.modify_eq_self fun row hrow => ?_
      rw [← kept row hrow]
    rw [handle_set_display_name, HubInner.setClient, rows]

/-- The writes of a join that is past the gates and refused leave the hub as it was. -/
lemma renamed_eq_self {srv : Server} {g : HubInner} {p : String} {msg msg' : InMsg}
    (clean : sanitize_in_place srv msg = .ok msg') :
    (if (g.lobby_id_of p).isSome then g
      else ((Text.nonempty msg'.display_name).map fun name =>
        (handle_set_display_name g p name).1).getD g) = g ↔ KeepsName srv g p msg := by
  have cleaned : ∀ {m}, sanitize_in_place srv msg = .ok m → m = msg' :=
    fun h => Except.ok.inj (h.symm.trans clean)
  by_cases inside : (g.lobby_id_of p).isSome
  · rw [if_pos inside]
    refine iff_of_true rfl fun m _ free => ?_
    rw [free] at inside
    cases inside
  · rw [if_neg inside]
    have free : g.lobby_id_of p = none := Option.not_isSome_iff_eq_none.mp inside
    cases hn : Text.nonempty msg'.display_name with
    | none =>
      refine iff_of_true rfl fun m ok _ name hname => ?_
      rw [cleaned ok, hn] at hname
      cases hname
    | some name =>
      refine set_display_name_eq_self.trans ⟨fun kept m ok _ name' hname row hrow => ?_, fun kept => ?_⟩
      · rw [cleaned ok, hn] at hname
        exact Option.some.inj hname ▸ kept row hrow
      · exact kept msg' clean free name hn

/-- **A refused join.** It leaves the hub as it was exactly when it carries no new display name past the
gates. -/
theorem refused_join_iff {srv : Server} {os : List Answer} {w : World} {p ip : String} {msg : InMsg}
    {code : Code} (op : msg.op = .join) (answered : repliesTo srv os w p ip msg = ([.error code], [])) :
    ((hubMachine srv).solo os [handle_text p ip (.ok msg)] w).1.hub = w.hub ↔
      KeepsName srv w.hub p msg := by
  have hc := connected_of_answered answered
  have told := congrArg Prod.fst answered
  have done := congrArg Prod.snd answered
  simp only [repliesTo] at told done
  cases os with
  | nil => cases done
  | cons o os =>
    have step : (hubMachine srv).solo (o :: os) [handle_text p ip (.ok msg)] w =
        (hubMachine srv).solo os ((handle_text_step srv w.hub p ip (.ok msg)).2 ++ [])
          (w.setHub (handle_text_step srv w.hub p ip (.ok msg)).1) := rfl
    rw [step] at told done ⊢
    unfold handle_text_step at told done ⊢
    cases clean : sanitize_in_place srv msg with
    | error bad =>
      simp only [clean] at told done ⊢
      have kept : KeepsName srv w.hub p msg := fun msg' ok => by cases clean.symm.trans ok
      refine iff_of_true ?_ kept
      cases os with
      | nil => cases done
      | cons o' os =>
        rw [refuse, List.append_nil, solo_send]
        exact World.send_hub ..
    | ok msg' =>
      simp only [clean] at told done ⊢
      have op' : msg'.op = .join := (sanitize_in_place_keeps clean).1.trans op
      split at told
      · -- the gate of a closed server drops the message in silence
        have silent : heard w ((hubMachine srv).solo os [] w).1 p = [.error code] := told
        rw [Machine.solo_done, heard_nothing] at silent
        cases silent
      · rename_i opened
        rw [if_neg opened] at done ⊢
        cases os with
        | nil => cases done
        | cons o' os =>
          -- A `join` that is dispatched renames its sender, and then takes the seat or is refused.
          have join : (hubMachine srv).solo (o' :: os) ([dispatch p ip msg'] ++ []) w =
              (hubMachine srv).solo os (handle_join w.hub p ip msg').2 w := by
            rw [List.append_nil, Machine.solo_cons, List.append_nil]
            simp only [hubMachine, exec, World.lift, dispatch_step, op', handle_join_hub]
            rfl
          have told : heard w ((hubMachine srv).solo (o' :: os) ([dispatch p ip msg'] ++ []) w).1 p =
              [.error code] := told
          have done : ((hubMachine srv).solo (o' :: os) ([dispatch p ip msg'] ++ []) w).2 = [] := done
          rw [join] at told done
          have left : ((hubMachine srv).solo (o' :: os) ([dispatch p ip msg'] ++ []) w).1.hub = _ :=
            (congrArg (·.1.hub) join).trans (handle_join_refused hc done told)
          exact (Eq.congr_left left).trans (renamed_eq_self clean)

/-- A client asks under a new name for a room that is gone. -/
def renamingJoin : InMsg :=
  { op := .join, lobby_id := some "5c0e7d52-9f0b-4b6e-8a17-3d2c1b0a9f88", display_name := some "Bea" }

/-- Is the client free to join, where no room is open? -/
def freeToJoin (p : String) (w : World) : Bool :=
  w.hub.lobbies.keys.isEmpty && (w.hub.clients.lookup p).any (·.lobby_id.isNone)

def isBea (p : String) (w : World) : Bool :=
  (w.hub.clients.lookup p).any (·.display_name = "Bea")

lemma freeToJoin_row {w : World} {p : String} (h : freeToJoin p w) :
    (∀ lid, w.hub.lobbies.lookup lid = none) ∧
      ∃ row, w.hub.clients.lookup p = some row ∧ w.hub.lobby_id_of p = none := by
  simp only [freeToJoin, Bool.and_eq_true, Option.any_eq_true, Option.isNone_iff_eq_none] at h
  obtain ⟨empty, row, hrow, free⟩ := h
  refine ⟨fun lid => ?_, row, hrow, ?_⟩
  · rw [AList.lookup_eq_none, AList.mem_keys, List.isEmpty_iff.mp empty]
    exact List.not_mem_nil
  · rw [HubInner.lobby_id_of, hrow]
    exact free

/-- The answer to that join. -/
lemma renamingJoin_answered {w : World} {p : String} {os : List Answer} (h : freeToJoin p w)
    (hos : 5 ≤ os.length) :
    repliesTo sampleServer os w p "203.0.113.7" renamingJoin = ([.error .gone], []) := by
  obtain ⟨gone, row, hrow, noted⟩ := freeToJoin_row h
  have clean : sanitize_in_place sampleServer renamingJoin = .ok renamingJoin := by rfl
  have reply := @join_alone sampleServer os w p "203.0.113.7" _ renamingJoin .gone
    (connected_iff.mpr ⟨row, hrow⟩) rfl rfl hos ?_
  · rw [reply, joinReply, clean]
    simp [noted, sampleServer]
  · rintro g' (rfl | ⟨name, rfl⟩) o msg'
    · exact joinOutcome_gone (gone _)
    · exact joinOutcome_gone (gone _)

/-- That join brings no new name to a client that has it already, and only to such a one. -/
lemma renamingJoin_keeps {w : World} {p : String} (h : freeToJoin p w) :
    KeepsName sampleServer w.hub p renamingJoin ↔ isBea p w := by
  obtain ⟨-, row, hrow, noted⟩ := freeToJoin_row h
  have clean : sanitize_in_place sampleServer renamingJoin = .ok renamingJoin := by rfl
  rw [isBea, hrow, Option.any_some, decide_eq_true_eq]
  constructor
  · exact fun kept => kept renamingJoin clean noted "Bea" rfl row hrow
  · intro bea msg' ok _ name hname row' hrow'
    obtain rfl := Except.ok.inj (clean.symm.trans ok)
    obtain rfl := Option.some.inj (hrow.symm.trans hrow')
    exact bea.trans (Option.some.inj hname)

/-- A client asks under a new name for a room that is gone. When it asks a second time, the name is its own
and the hub stays as it is. -/
theorem refused_join_iff_again : ∃ c tr p, HubRun sampleServer c tr ∧
    (∃ s ∈ visited c tr, freeToJoin p s.world ∧ ¬ isBea p s.world) ∧
    ∀ os : List Answer, 5 ≤ os.length →
      repliesTo sampleServer os c.world p "203.0.113.7" renamingJoin = ([.error .gone], []) ∧
      ((hubMachine sampleServer).solo os [handle_text p "203.0.113.7" (.ok renamingJoin)]
        c.world).1.hub = c.world.hub := by
  let p := "6b0f1e52-3c1d-4a86-9a53-0d5f6f1c2a11"
  let o := draw "9b1deb4d-3b7d-4bad-9bdd-2b0d7b3dcb6d"
  have h : ((hubMachine sampleServer).follow ([.event (.connect p "203.0.113.7")] ++
      steps (.conn p) 1 o ++ [say p renamingJoin] ++ steps (.conn p) 3 o)).any fun x =>
        (visited x.1 x.2).any (fun s => freeToJoin p s.world && !isBea p s.world) &&
          (freeToJoin p x.1.world && isBea p x.1.world) := by decide +kernel
  obtain ⟨c, tr, r, ht, -⟩ := Machine.follow_reaches h
  simp only [Bool.and_eq_true] at ht
  obtain ⟨before, free, bea⟩ := ht
  refine ⟨c, tr, p, r, by simpa [List.any_eq_true] using before, fun os hos => ?_⟩
  have answered := renamingJoin_answered free hos
  exact ⟨answered, (refused_join_iff rfl answered).mpr ((renamingJoin_keeps free).mpr bea)⟩

/-- The room is gone, and the new name stays. -/
theorem refused_join_renames : ¬ ∀ srv c tr os p ip msg code, HubRun srv c tr → msg.op = .join →
    repliesTo srv os c.world p ip msg = ([.error code], []) →
    ((hubMachine srv).solo os [handle_text p ip (.ok msg)] c.world).1.hub = c.world.hub := by
  intro all
  let p := "6b0f1e52-3c1d-4a86-9a53-0d5f6f1c2a11"
  let o := draw "9b1deb4d-3b7d-4bad-9bdd-2b0d7b3dcb6d"
  have h : ((hubMachine sampleServer).follow
      ([.event (.connect p "203.0.113.7")] ++ steps (.conn p) 1 o)).any fun x =>
        freeToJoin p x.1.world && !isBea p x.1.world := by decide +kernel
  obtain ⟨c, tr, r, ht, -⟩ := Machine.follow_reaches h
  obtain ⟨free, other⟩ := (Bool.and_eq_true _ _).mp ht
  have hos : 5 ≤ (List.replicate 5 o).length := by decide
  have answered := renamingJoin_answered free hos
  have same := all sampleServer c tr _ p "203.0.113.7" renamingJoin .gone r rfl answered
  have bea := (renamingJoin_keeps free).mp ((refused_join_iff rfl answered).mp same)
  simp [bea] at other

end RecompNet
