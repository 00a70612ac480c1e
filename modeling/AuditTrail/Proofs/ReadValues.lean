import AuditTrail.Entry.Body
import AuditTrail.Entry.Redaction
import AuditTrail.Proofs.Values

/-!
# What the reader gives

A value that has been read nests no deeper than the reader went, its objects are in order, and its
integers fit 64 bits. The recorded body of a request is such a value, and stays one when it is
redacted.
-/

namespace AuditTrail
namespace Json

namespace Object

lemma mem_insert {key : String} {v : Json} {o : Object} {m : String × Json}
    (h : m ∈ insert key v o) : m = (key, v) ∨ m ∈ o := by
  induction o with
  | nil => exact .inl (List.mem_singleton.mp h)
  | cons n o ih =>
    obtain ⟨k, w⟩ := n
    rw [insert] at h
    split at h
    · exact List.mem_cons.mp h
    · split at h
      · rcases List.mem_cons.mp h with h | h
        · exact .inl h
        · exact .inr (List.mem_cons_of_mem _ h)
      · rcases List.mem_cons.mp h with h | h
        · exact .inr (h ▸ List.mem_cons_self)
        · exact (ih h).imp_right (List.mem_cons_of_mem _)

lemma sorted_insert {key : String} {v : Json} {o : Object} (h : Sorted o) :
    Sorted (insert key v o) := by
  unfold Sorted at h ⊢
  rw [List.pairwise_map] at h ⊢
  induction o with
  | nil => exact List.pairwise_singleton _ _
  | cons n o ih =>
    obtain ⟨k, w⟩ := n
    obtain ⟨hfirst, hrest⟩ := List.pairwise_cons.mp h
    rw [insert]
    split
    · next hlt =>
      refine List.pairwise_cons.mpr ⟨fun m hm => ?_, h⟩
      rcases List.mem_cons.mp hm with rfl | hm
      · exact hlt
      · exact String.lt_trans hlt (hfirst m hm)
    · next hnot =>
      split
      · next heq => exact List.pairwise_cons.mpr ⟨heq ▸ hfirst, hrest⟩
      · next hne =>
        refine List.pairwise_cons.mpr ⟨fun m hm => ?_, ih hrest⟩
        rcases mem_insert hm with rfl | hm
        · exact Std.lt_of_le_of_ne (String.not_lt.mp hnot) (Ne.symm hne)
        · exact hfirst m hm

lemma ofMembers_induction {motive : Object → Prop} {members : List (String × Json)}
    (empty : motive [])
    (step : ∀ m ∈ members, ∀ o, motive o → motive (insert m.1 m.2 o)) :
    motive (ofMembers members) := by
  have hfold : ∀ o, motive o → motive (members.foldl (fun o m => insert m.1 m.2 o) o) := by
    induction members with
    | nil => exact fun o ho => ho
    | cons m ms ih =>
      intro o ho
      exact ih (fun n hn => step n (List.mem_cons_of_mem _ hn)) _
        (step m List.mem_cons_self o ho)
  exact hfold [] empty

lemma sorted_ofMembers (members : List (String × Json)) : Sorted (ofMembers members) :=
  ofMembers_induction List.Pairwise.nil fun _ _ _ => sorted_insert

lemma mem_ofMembers {members : List (String × Json)} :
    ∀ m ∈ ofMembers members, m ∈ members := by
  refine ofMembers_induction (motive := fun o => ∀ m ∈ o, m ∈ members) (by simp) ?_
  intro n hn o ho m hm
  rcases mem_insert hm with rfl | hm
  · exact hn
  · exact ho m hm

end Object

section Brackets

variable {α : Type} {close : UInt8} {item : Reader α}

lemma mem_separated {n : Nat} {s rest : Bytes} {xs : List α}
    (h : separated close item n s = some (xs, rest)) {x : α} (hx : x ∈ xs) :
    ∃ s' rest', item s' = some (x, rest') := by
  induction n generalizing s xs with
  | zero => cases h
  | succ n ih =>
    rw [separated] at h
    split at h
    · cases h
    · next y t hitem =>
      split at h
      · cases h
      · split at h
        · cases h
          rw [List.mem_singleton.mp hx]
          exact ⟨_, _, hitem⟩
        · split at h
          · obtain ⟨⟨ys, r⟩, hsep, heq⟩ := Option.map_eq_some_iff.mp h
            cases heq
            rcases List.mem_cons.mp hx with rfl | hx
            · exact ⟨_, _, hitem⟩
            · exact ih hsep hx
          · cases h

/-- Whatever is in a container has been read by its item reader. -/
lemma mem_bracketed {s rest : Bytes} {xs : List α}
    (h : bracketed close item s = some (xs, rest)) {x : α} (hx : x ∈ xs) :
    ∃ s' rest', item s' = some (x, rest') := by
  simp only [bracketed] at h
  split at h
  · cases h
  · split at h
    · cases h
      cases hx
    · exact mem_separated h hx

lemma of_member {item : Reader α} {s rest : Bytes} {m : String × α}
    (h : member item s = some (m, rest)) : ∃ s', item s' = some (m.2, rest) := by
  simp only [member, Option.bind_eq_bind, Option.bind_eq_some_iff] at h
  obtain ⟨⟨k, s⟩, -, s', -, ⟨v, s''⟩, hitem, heq⟩ := h
  cases heq
  exact ⟨s', hitem⟩

end Brackets

lemma isWord_of_toNumber {x : Numeral} {n : Number} (h : x.toNumber? = some n) : n.IsWord := by
  unfold Numeral.toNumber? at h
  split at h
  · next i hinteger =>
    cases h
    unfold Numeral.toInteger? at hinteger
    split at hinteger
    · cases hinteger
    · dsimp only at hinteger
      simp only [Number.IsWord]
      have h63 : Word.limit63 = 9223372036854775808 := rfl
      have h64 : Word.limit64 = 18446744073709551616 := rfl
      split at hinteger
      · split at hinteger
        · cases hinteger
          omega
        · cases hinteger
      · split at hinteger
        · cases hinteger
          omega
        · cases hinteger
  · obtain ⟨y, -, rfl⟩ := Option.map_eq_some_iff.mp h
    trivial

/-- A value that has been read nests as deep as the reader goes at most, and is regular. -/
theorem value_spec {depth : Nat} {s rest : Bytes} {v : Json}
    (h : value depth s = some (v, rest)) : Nests depth v ∧ Regular Number.IsWord v := by
  induction depth using Nat.strongRecOn generalizing s rest v with
  | ind depth ih =>
    rw [value.eq_def] at h
    dsimp only at h
    split at h
    · cases h
    · split at h
      · obtain ⟨⟨text, t⟩, -, heq⟩ := Option.map_eq_some_iff.mp h
        cases heq
        exact ⟨.string text, .string text⟩
      · obtain ⟨t, -, heq⟩ := Option.map_eq_some_iff.mp h
        cases heq
        exact ⟨.null, .null⟩
      · obtain ⟨t, -, heq⟩ := Option.map_eq_some_iff.mp h
        cases heq
        exact ⟨.bool true, .bool true⟩
      · obtain ⟨t, -, heq⟩ := Option.map_eq_some_iff.mp h
        cases heq
        exact ⟨.bool false, .bool false⟩
      · cases depth with
        | zero => cases h
        | succ depth =>
          obtain ⟨⟨items, t⟩, hitems, heq⟩ := Option.map_eq_some_iff.mp h
          cases heq
          have hread : ∀ v ∈ items, Nests depth v ∧ Regular Number.IsWord v := by
            intro v hv
            obtain ⟨s', rest', hvalue⟩ := mem_bracketed hitems hv
            exact ih depth (Nat.lt_succ_self depth) hvalue
          exact ⟨.array fun v hv => (hread v hv).1, .array fun v hv => (hread v hv).2⟩
      · cases depth with
        | zero => cases h
        | succ depth =>
          obtain ⟨⟨members, t⟩, hmembers, heq⟩ := Option.map_eq_some_iff.mp h
          cases heq
          have hread : ∀ m ∈ Object.ofMembers members,
              Nests depth m.2 ∧ Regular Number.IsWord m.2 := by
            intro m hm
            obtain ⟨s', rest', hmember⟩ := mem_bracketed hmembers (Object.mem_ofMembers m hm)
            obtain ⟨s'', hvalue⟩ := of_member hmember
            exact ih depth (Nat.lt_succ_self depth) hvalue
          exact ⟨.object fun m hm => (hread m hm).1,
            .object (Object.sorted_ofMembers members) fun m hm => (hread m hm).2⟩
      · simp only [Option.bind_eq_bind, Option.bind_eq_some_iff] at h
        obtain ⟨⟨x, t⟩, -, n, hn, heq⟩ := h
        cases heq
        exact ⟨.number n, .number (isWord_of_toNumber hn)⟩

end Json

open Json

namespace Redaction

lemma member_cases (m : String × Json) : member m = m ∨ member m = (m.1, mark) := by
  unfold member
  split
  · exact .inr rfl
  · exact .inl rfl

lemma nests_body {depth : Nat} {o : Object} (h : Nests depth (object o)) :
    Nests depth (object (body o)) := by
  cases h with
  | object hmembers =>
    refine .object fun m hm => ?_
    obtain ⟨n, hn, rfl⟩ := List.mem_map.mp hm
    rcases member_cases n with heq | heq <;> rw [heq]
    · exact hmembers n hn
    · exact .string _

lemma regular_body {p : Number → Prop} {o : Object} (h : Regular p (object o)) :
    Regular p (object (body o)) := by
  cases h with
  | object hsorted hmembers =>
    refine .object ?_ fun m hm => ?_
    · have hkeys : (body o).map Prod.fst = o.map Prod.fst := by
        rw [body, List.map_map]
        refine List.map_congr_left fun m _ => ?_
        rcases member_cases m with heq | heq <;> simp [heq]
      unfold Object.Sorted at hsorted ⊢
      rwa [hkeys]
    · obtain ⟨n, hn, rfl⟩ := List.mem_map.mp hm
      rcases member_cases n with heq | heq <;> rw [heq]
      · exact hmembers n hn
      · exact .string _

end Redaction

namespace Body

lemma recorded_cases (s : Bytes) :
    recorded s = [] ∨ object? s = some (recorded s) := by
  unfold recorded read
  split
  · exact .inl rfl
  · cases h : object? s with
    | none => exact .inl rfl
    | some o => exact .inr rfl

/-- A recorded body nests as deep as a text may, and is regular. -/
theorem recorded_spec (s : Bytes) :
    Nests maxDepth (object (recorded s)) ∧ Regular Number.IsWord (object (recorded s)) := by
  rcases recorded_cases s with hnone | hsome
  · rw [hnone]
    exact ⟨.object (by simp), .object List.Pairwise.nil (by simp)⟩
  · unfold object? whole at hsome
    split at hsome
    · next o t hread =>
      split at hsome
      · cases hsome
        unfold objectWithin at hread
        split at hread
        · next o' t' hvalue =>
          cases hread
          exact value_spec hvalue
        · cases hread
      · cases hsome
    · cases hsome

/-- Redaction keeps it so. -/
lemma redacted_spec (s : Bytes) : Nests maxDepth (object (Redaction.body (recorded s))) ∧
    Regular Number.IsWord (object (Redaction.body (recorded s))) :=
  ⟨Redaction.nests_body (recorded_spec s).1, Redaction.regular_body (recorded_spec s).2⟩

end Body
end AuditTrail
