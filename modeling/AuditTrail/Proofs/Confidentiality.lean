import AuditTrail.Pipeline.Timed
import AuditTrail.Proofs.Deliveries
import AuditTrail.Proofs.Ledger
import AuditTrail.Proofs.Tickets
import Mathlib.Data.List.Forall2

/-!
# Secrets stay outside the buffer

A worker redacts an entry before it adds it to the buffer, so whatever a slot holds or a writer
passes to the sink is an accepted entry without its secret values. And as the pipeline looks into
its entries only to redact them, what reaches the sink does not depend on the secret values at all:
two runs with the same steps, on entries that differ in these values only, call the sink alike.
-/

namespace AuditTrail.Pipeline

/-- The names of members with secret values. -/
def IsSecret (key : String) : Prop :=
  key = "password" ∨ key = "fingerprint" ∨ key = "refresh_token" ∨ key = "access_token"

/-- The second member is the first one with its value replaced if it is secret. -/
structure RedactedMember (m m' : String × Json) : Prop where
  key : m'.1 = m.1
  hidden : IsSecret m.1 → m'.2 = .string "[REDACTED]"
  shown : ¬IsSecret m.1 → m'.2 = m.2

/-- The second entry is the first one with the secret values in both bodies replaced. -/
structure Redacted (e e' : Entry) : Prop where
  request : List.Forall₂ RedactedMember e.requestBody e'.requestBody
  response : List.Forall₂ RedactedMember e.responseBody e'.responseBody
  rest : e' = { e with requestBody := e'.requestBody, responseBody := e'.responseBody }

/-- Two members that differ in a secret value at most. -/
structure AlikeMember (m m' : String × Json) : Prop where
  key : m'.1 = m.1
  shown : ¬IsSecret m.1 → m'.2 = m.2

/-- Two entries that differ in secret values at most. -/
structure Alike (e e' : Entry) : Prop where
  request : List.Forall₂ AlikeMember e.requestBody e'.requestBody
  response : List.Forall₂ AlikeMember e.responseBody e'.responseBody
  rest : e' = { e with requestBody := e'.requestBody, responseBody := e'.responseBody }

/-- The same step, up to secret values in an entry that is offered. -/
inductive AlikeMove : Move Entry → Move Entry → Prop where
  | send {e e' : Entry} : Alike e e' → AlikeMove (.send e) (.send e')
  | same (m : Move Entry) : AlikeMove m m

lemma isSensitive_iff (key : String) : Redaction.isSensitive key = true ↔ IsSecret key := by
  simp [Redaction.isSensitive, Redaction.sensitiveNames, IsSecret]

lemma redacted_member (m : String × Json) : RedactedMember m (Redaction.member m) := by
  unfold Redaction.member
  by_cases hsecret : IsSecret m.1
  · rw [if_pos ((isSensitive_iff m.1).mpr hsecret)]
    exact ⟨rfl, fun _ => rfl, fun hnot => (hnot hsecret).elim⟩
  · rw [if_neg (mt (isSensitive_iff m.1).mp hsecret)]
    exact ⟨rfl, fun hyes => (hsecret hyes).elim, fun _ => rfl⟩

lemma redacted_body (o : Json.Object) : List.Forall₂ RedactedMember o (Redaction.body o) := by
  unfold Redaction.body
  rw [List.forall₂_map_right_iff, List.forall₂_same]
  intro m _
  exact redacted_member m

lemma redacted_entry (e : Entry) : Redacted e (Redaction.entry e) :=
  ⟨redacted_body e.requestBody, redacted_body e.responseBody, rfl⟩

lemma member_of_alike {m m' : String × Json} (h : AlikeMember m m') :
    Redaction.member m' = Redaction.member m := by
  unfold Redaction.member
  rw [h.key]
  by_cases hsecret : IsSecret m.1
  · rw [if_pos ((isSensitive_iff m.1).mpr hsecret), if_pos ((isSensitive_iff m.1).mpr hsecret)]
  · rw [if_neg (mt (isSensitive_iff m.1).mp hsecret), if_neg (mt (isSensitive_iff m.1).mp hsecret)]
    exact Prod.ext h.key (h.shown hsecret)

lemma body_of_alike {o o' : Json.Object} (h : List.Forall₂ AlikeMember o o') :
    Redaction.body o' = Redaction.body o := by
  induction h with
  | nil => rfl
  | cons hmember _ ih => exact congrArg₂ List.cons (member_of_alike hmember) ih

/-- Redaction leaves nothing by which two such entries could be told apart. -/
lemma Alike.redacted {e e' : Entry} (h : Alike e e') : Redaction.entry e' = Redaction.entry e := by
  unfold Redaction.entry
  rw [body_of_alike h.request, body_of_alike h.response, h.rest]

lemma Redacted.alike {e e' : Entry} (h : Redacted e e') : Alike e e' := by
  have hmember : ∀ m m' : String × Json, RedactedMember m m' → AlikeMember m m' :=
    fun _ _ hm => ⟨hm.key, hm.shown⟩
  exact ⟨h.request.imp hmember, h.response.imp hmember, h.rest⟩

lemma redact_twice (e : Entry) : Redaction.entry (Redaction.entry e) = Redaction.entry e :=
  (redacted_entry e).alike.redacted

section Runs

variable {ε : Type} {plan : Plan ε} {s : State ε} {history : List (Event ε)}

lemma Run.stored_accepted {slot : Slot} {x : ε} (run : Run plan s history)
    (hx : x ∈ s.buffer.contents slot) : ∃ e ∈ acceptedIn history, x = plan.redact e := by
  have hstored : x ∈ s.stored := by
    unfold State.stored
    cases slot with
    | zero => exact Multiset.mem_add.mpr (.inl hx)
    | one => exact Multiset.mem_add.mpr (.inr hx)
  have hpushed : x ∈ (pushedIn history : Multiset ε) := by
    rw [run.balanced.slots]
    exact Multiset.mem_add.mpr (.inl hstored)
  have hreceived : x ∈ (((receiptsIn history).map fun p => plan.redact p.2 : List ε) :
      Multiset ε) := by
    rw [run.balanced.hands]
    exact Multiset.mem_add.mpr (.inl hpushed)
  obtain ⟨p, hp, rfl⟩ := List.mem_map.mp (Multiset.mem_coe.mp hreceived)
  refine ⟨p.2, ?_, rfl⟩
  rw [run.balanced.queue]
  exact List.mem_append_left _ (List.mem_map_of_mem hp)

lemma Run.called_accepted {writer : Task} {entries : List ε} {x : ε} (run : Run plan s history)
    (hcall : (writer, entries) ∈ callsIn history) (hx : x ∈ entries) :
    ∃ e ∈ acceptedIn history, x = plan.redact e := by
  induction run with
  | start => cases hcall
  | step m run hstep ih =>
    rw [callsIn_append] at hcall
    rw [acceptedIn_append]
    rcases List.mem_append.mp hcall with hcall | hcall
    · obtain ⟨e, he, hredacted⟩ := ih hcall
      exact ⟨e, List.mem_append_left _ he, hredacted⟩
    · -- A new call passes what is in a slot.
      obtain ⟨slot, rfl⟩ := ((step_transition hstep).delivery run.locked).call hcall
      obtain ⟨e, he, hredacted⟩ := run.stored_accepted hx
      exact ⟨e, List.mem_append_left _ he, hredacted⟩

lemma callsIn_map {δ : Type} (f : ε → δ) (history : List (Event ε)) :
    callsIn (history.map (Event.map f)) = (callsIn history).map fun c => (c.1, c.2.map f) := by
  unfold callsIn
  rw [List.filterMap_map, List.map_filterMap]
  congr 1
  funext e
  cases e <;> rfl

end Runs

/-! ### Two runs -/

section Pairs

variable {plan : Plan Entry} {moves moves' : List (Move Entry)} {s s' : State Entry}
  {history history' : List (Event Entry)}

lemma map_redacted {entries : List Entry} (h : ∀ x ∈ entries, ∃ e, x = Redaction.entry e) :
    entries.map Redaction.entry = entries := by
  conv_rhs => rw [← List.map_id entries]
  apply List.map_congr_left
  intro x hx
  obtain ⟨e, rfl⟩ := h x hx
  exact redact_twice e

lemma AlikeMove.redacted {m m' : Move Entry} (h : AlikeMove m m') :
    m'.map Redaction.entry = m.map Redaction.entry := by
  cases h with
  | send halike => exact congrArg Move.send halike.redacted
  | same m => rfl

lemma redacted_moves (h : List.Forall₂ AlikeMove moves moves') :
    moves'.map (Move.map Redaction.entry) = moves.map (Move.map Redaction.entry) := by
  induction h with
  | nil => rfl
  | cons hmove _ ih => exact congrArg₂ List.cons hmove.redacted ih

/-- Runs with the same steps look the same when all their entries are redacted. -/
lemma exec_alike (hredact : plan.redact = Redaction.entry)
    (halike : List.Forall₂ AlikeMove moves moves') (h : exec plan moves = some (s, history)) :
    ∃ s' history', exec plan moves' = some (s', history') ∧
      s'.map Redaction.entry = s.map Redaction.entry ∧
      history'.map (Event.map Redaction.entry) = history.map (Event.map Redaction.entry) := by
  have hrelabels : plan.Relabels Redaction.entry plan :=
    ⟨rfl, rfl, rfl, rfl, fun e => by rw [hredact]⟩
  have hsame := exec_map hrelabels moves'
  rw [redacted_moves halike, exec_map hrelabels moves, h] at hsame
  cases hexec : exec plan moves' with
  | none =>
    rw [hexec] at hsame
    cases hsame
  | some next =>
    rw [hexec] at hsame
    have hnext := Option.some.inj hsame
    exact ⟨next.1, next.2, rfl, (congrArg Prod.fst hnext).symm, (congrArg Prod.snd hnext).symm⟩

/-- What is stored is redacted already, so it is the same in both runs. -/
lemma contents_alike (hredact : plan.redact = Redaction.entry) (run : Run plan s history)
    (run' : Run plan s' history') (hsame : s'.map Redaction.entry = s.map Redaction.entry)
    (slot : Slot) : s'.buffer.contents slot = s.buffer.contents slot := by
  have hredacted : ∀ {s history}, Run plan s history →
      (s.buffer.contents slot).map Redaction.entry = s.buffer.contents slot := by
    intro s history run
    apply map_redacted
    intro x hx
    obtain ⟨e, -, he⟩ := run.stored_accepted hx
    exact ⟨e, by rw [he, hredact]⟩
  have hcontents : (s'.map Redaction.entry).buffer.contents slot =
      (s.map Redaction.entry).buffer.contents slot := by rw [hsame]
  calc
    s'.buffer.contents slot = (s'.buffer.contents slot).map Redaction.entry :=
      (hredacted run').symm
    _ = (s.buffer.contents slot).map Redaction.entry := by
      rw [← contents_map, ← contents_map]
      exact hcontents
    _ = s.buffer.contents slot := hredacted run

lemma calls_alike (hredact : plan.redact = Redaction.entry) (run : Run plan s history)
    (run' : Run plan s' history')
    (hsame : history'.map (Event.map Redaction.entry) =
      history.map (Event.map Redaction.entry)) : callsIn history' = callsIn history := by
  have hredacted : ∀ {s history}, Run plan s history →
      (callsIn history).map (fun c => (c.1, c.2.map Redaction.entry)) = callsIn history := by
    intro s history run
    conv_rhs => rw [← List.map_id (callsIn history)]
    apply List.map_congr_left
    intro call hcall
    refine Prod.ext rfl (map_redacted ?_)
    intro x hx
    obtain ⟨e, -, he⟩ := run.called_accepted hcall hx
    exact ⟨e, by rw [he, hredact]⟩
  calc
    callsIn history' = callsIn (history'.map (Event.map Redaction.entry)) := by
      rw [callsIn_map, hredacted run']
    _ = callsIn (history.map (Event.map Redaction.entry)) := by rw [hsame]
    _ = callsIn history := by rw [callsIn_map, hredacted run]

end Pairs

/-- An entry with a ticket is the accepted entry with this ticket, redacted. -/
def RedactedFrom (moves : List (Move Entry)) (tagged : List (Event (Entry × Nat)))
    (p : Entry × Nat) : Prop :=
  ∃ e, (e, p.2) ∈ acceptedIn tagged ∧ moves[p.2]? = some (.send e) ∧ Redacted e p.1

/-- In every run, each entry in a slot and each entry that is passed to the sink is an accepted
entry whose secret values are replaced; and a run with the same steps, on entries that differ in
secret values at most, has the same slots and passes the same batches. -/
theorem secrets_stay_outside (c : Config) (moves : List (Move Entry)) (s : State Entry)
    (history : List (Event Entry)) (h : exec (Timed.planOf c) moves = some (s, history)) :
    (∃ t tagged, exec (Timed.planOf c).ticketed (withTickets moves) = some (t, tagged) ∧
      t.map Prod.fst = s ∧ tagged.map (Event.map Prod.fst) = history ∧
      (∀ slot, ∀ p ∈ t.buffer.contents slot, RedactedFrom moves tagged p) ∧
      ∀ writer entries, (writer, entries) ∈ callsIn tagged →
        ∀ p ∈ entries, RedactedFrom moves tagged p) ∧
    ∀ moves', List.Forall₂ AlikeMove moves moves' → ∃ s' history',
      exec (Timed.planOf c) moves' = some (s', history') ∧
      callsIn history' = callsIn history ∧
      ∀ slot, s'.buffer.contents slot = s.buffer.contents slot := by
  constructor
  · obtain ⟨t, tagged, hexec, rfl, rfl⟩ := exec_withTickets h
    have inv := ticketed_of_exec hexec
    have run := run_iff_exec.mpr ⟨_, hexec⟩
    have hfrom : ∀ p, (∃ q ∈ acceptedIn tagged, p = (Timed.planOf c).ticketed.redact q) →
        RedactedFrom moves tagged p := by
      rintro p ⟨⟨e, n⟩, hq, rfl⟩
      exact ⟨e, hq, inv.accepted e n hq, redacted_entry e⟩
    refine ⟨t, tagged, hexec, rfl, rfl, ?_, ?_⟩
    · intro slot p hp
      exact hfrom p (run.stored_accepted hp)
    · intro writer entries hcall p hp
      exact hfrom p (run.called_accepted hcall hp)
  · intro moves' halike
    obtain ⟨s', history', hexec, hstate, hhistory⟩ := exec_alike rfl halike h
    have run := run_iff_exec.mpr ⟨_, h⟩
    have run' := run_iff_exec.mpr ⟨_, hexec⟩
    exact ⟨s', history', hexec, calls_alike rfl run run' hhistory,
      contents_alike rfl run run' hstate⟩

/-- The entry of a request with a password. -/
def loginEntry (password : Json) : Entry :=
  { (default : Entry) with requestBody := [("name", .string "jo"), ("password", password)] }

/-- Whatever the password in the short run is, the sink gets the same two batches. -/
theorem short_run_hides_password : ∃ s history s' history',
    exec (Timed.planOf narrowConfig) (shortRun (loginEntry (.string "xyz")) default default) =
        some (s, history) ∧
      exec (Timed.planOf narrowConfig) (shortRun (loginEntry .null) default default) =
        some (s', history') ∧
      callsIn history = [(.flusher, [loginEntry (.string "[REDACTED]")]),
        (.shutdown 0, [default])] ∧
      callsIn history' = callsIn history := by
  have hrun : ∃ s history,
      exec (Timed.planOf narrowConfig) (shortRun (loginEntry (.string "xyz")) default default) =
          some (s, history) ∧
        callsIn history = [(.flusher, [loginEntry (.string "[REDACTED]")]),
          (.shutdown 0, [default])] := ⟨_, _, rfl, rfl⟩
  obtain ⟨s, history, hexec, hcalls⟩ := hrun
  have halike : Alike (loginEntry (.string "xyz")) (loginEntry .null) := by
    refine ⟨.cons ⟨rfl, fun _ => rfl⟩ (.cons ⟨rfl, ?_⟩ .nil), .nil, rfl⟩
    intro hshown
    exact (hshown (.inl rfl)).elim
  have hmoves : List.Forall₂ AlikeMove (shortRun (loginEntry (.string "xyz")) default default)
      (shortRun (loginEntry .null) default default) :=
    .cons (.send halike) (List.forall₂_same.mpr fun m _ => .same m)
  obtain ⟨s', history', hexec', hsame, -⟩ :=
    (secrets_stay_outside narrowConfig _ s history hexec).2 _ hmoves
  exact ⟨s, history, s', history', hexec, hexec', hcalls, hsame⟩

end AuditTrail.Pipeline
