import AuditTrail.Proofs.Balance
import AuditTrail.Proofs.BoundedCapture
import AuditTrail.Proofs.FileSink

/-!
# Oversized bodies leave no trace

A reader gives back an end of its text, and one for an object takes everything up to a closing brace.
So a text is an object only if its last octet is a closing brace or a blank. A body that has been cut
ends with a bracket, whatever stands before the cut.
-/

namespace AuditTrail

open Time (Instant)

namespace Json

section Remainders

variable {α : Type} {s rest : Bytes}

/-- What is left after the blanks in front is left of the whole text. -/
lemma suffix_of_dropBlank {t : Bytes} (h : dropBlank s = t) (hrest : rest <:+ t) : rest <:+ s := by
  rw [← h] at hrest
  exact hrest.trans (List.dropWhile_suffix isBlank)

lemma split_suffix {lit : Bytes} (h : Literal.split s = some (lit, rest)) : rest <:+ s := by
  fun_induction Literal.split s generalizing lit with
  | case1 => cases h
  | case2 s =>
    cases h
    exact List.suffix_cons _ _
  | case3 => cases h
  | case4 c s hquote ih =>
    obtain ⟨⟨lit', rest'⟩, hsplit, heq⟩ := Option.map_eq_some_iff.mp h
    cases heq
    exact ((ih hsplit).trans (List.suffix_cons c s)).trans (List.suffix_cons _ _)
  | case5 => cases h
  | case6 b s hquote hback hcontrol ih =>
    obtain ⟨⟨lit', rest'⟩, hsplit, heq⟩ := Option.map_eq_some_iff.mp h
    cases heq
    exact (ih hsplit).trans (List.suffix_cons b s)

lemma literal_suffix {text : String} (h : Literal.read s = some (text, rest)) : rest <:+ s := by
  simp only [Literal.read, Option.bind_eq_bind, Option.bind_eq_some_iff] at h
  obtain ⟨⟨lit, t⟩, hsplit, text, -, heq⟩ := h
  cases heq
  exact split_suffix hsplit

lemma expect_suffix {word : Bytes} (h : expect word s = some rest) : rest <:+ s := by
  rw [eq_of_expect h]
  exact List.suffix_append word rest

lemma digits_suffix {digits : List Nat} (h : Numeral.someDigits? s = some (digits, rest)) :
    rest <:+ s := by
  have hspan : Numeral.someDigits? s =
      if (Numeral.spanDigits s).1.isEmpty then none else some (Numeral.spanDigits s) := rfl
  rw [hspan] at h
  split at h
  · cases h
  · cases h
    exact List.dropWhile_suffix Numeral.isDigit

lemma whole_suffix {digits : List Nat} (h : Numeral.readWhole s = some (digits, rest)) :
    rest <:+ s := by
  unfold Numeral.readWhole at h
  split at h
  · cases h
  · exact digits_suffix h

lemma fraction_suffix {fraction : Option (List Nat)}
    (h : Numeral.readFraction s = some (fraction, rest)) : rest <:+ s := by
  unfold Numeral.readFraction at h
  split at h
  · obtain ⟨⟨digits, t⟩, hdigits, heq⟩ := Option.map_eq_some_iff.mp h
    cases heq
    exact (digits_suffix hdigits).trans (List.suffix_cons _ _)
  · cases h
    exact List.suffix_rfl

lemma exponent_suffix {exponent : Option Exponent}
    (h : Numeral.readExponent s = some (exponent, rest)) : rest <:+ s := by
  unfold Numeral.readExponent at h
  split at h
  · cases h
    exact List.suffix_rfl
  · next b r =>
    split at h
    · dsimp only at h
      obtain ⟨⟨digits, t⟩, hdigits, heq⟩ := Option.map_eq_some_iff.mp h
      cases heq
      have hsign := digits_suffix hdigits
      refine List.IsSuffix.trans ?_ (List.suffix_cons b r)
      split at hsign
      · exact hsign.trans (List.suffix_cons _ _)
      · exact hsign.trans (List.suffix_cons _ _)
      · exact hsign
    · cases h
      exact List.suffix_rfl

lemma numeral_suffix {x : Numeral} (h : Numeral.read s = some (x, rest)) : rest <:+ s := by
  simp only [Numeral.read, Option.bind_eq_bind, Option.bind_eq_some_iff] at h
  obtain ⟨⟨whole, t⟩, hwhole, ⟨fraction, t'⟩, hfraction, ⟨exponent, t''⟩, hexponent, heq⟩ := h
  cases heq
  have hsign := ((exponent_suffix hexponent).trans (fraction_suffix hfraction)).trans
    (whole_suffix hwhole)
  split at hsign
  · exact hsign.trans (List.suffix_cons _ _)
  · exact hsign

lemma colon_suffix (h : colon s = some rest) : rest <:+ s := by
  unfold colon at h
  split at h
  · next heq =>
    cases h
    exact suffix_of_dropBlank heq (List.suffix_cons _ _)
  · cases h

lemma key_suffix {k : String} (h : key s = some (k, rest)) : rest <:+ s := by
  unfold key at h
  split at h
  · next heq => exact suffix_of_dropBlank heq ((literal_suffix h).trans (List.suffix_cons _ _))
  · cases h

variable {close : UInt8} {item : Reader α}

lemma member_suffix {x : String × α} (h : member item s = some (x, rest))
    (hitem : ∀ {s x rest}, item s = some (x, rest) → rest <:+ s) : rest <:+ s := by
  simp only [member, Option.bind_eq_bind, Option.bind_eq_some_iff] at h
  obtain ⟨⟨k, s₁⟩, hkey, s₂, hcolon, ⟨v, s₃⟩, hvalue, heq⟩ := h
  cases heq
  exact ((hitem hvalue).trans (colon_suffix hcolon)).trans (key_suffix hkey)

/-- A container is read up to its closing octet. -/
lemma separated_suffix (hitem : ∀ {s x rest}, item s = some (x, rest) → rest <:+ s) {n : Nat}
    {xs : List α} (h : separated close item n s = some (xs, rest)) : close :: rest <:+ s := by
  induction n generalizing s xs with
  | zero => cases h
  | succ n ih =>
    rw [separated] at h
    split at h
    · cases h
    · next x t hread =>
      refine List.IsSuffix.trans ?_ (hitem hread)
      split at h
      · cases h
      · next b u hblank =>
        refine suffix_of_dropBlank hblank ?_
        split at h
        · next heq =>
          cases h
          rw [heq]
        · split at h
          · obtain ⟨⟨ys, r⟩, hrest, heq⟩ := Option.map_eq_some_iff.mp h
            cases heq
            exact (ih hrest).trans (List.suffix_cons b u)
          · cases h

lemma bracketed_suffix (hitem : ∀ {s x rest}, item s = some (x, rest) → rest <:+ s) {xs : List α}
    (h : bracketed close item s = some (xs, rest)) : close :: rest <:+ s := by
  simp only [bracketed] at h
  split at h
  · cases h
  · next b t hblank =>
    split at h
    · next heq =>
      cases h
      rw [← heq]
      exact suffix_of_dropBlank hblank List.suffix_rfl
    · exact separated_suffix hitem h

/-- What is left of a text after a value is an end of it; an object takes its closing brace with
it. -/
structure Leaves (v : Json) (s rest : Bytes) : Prop where
  suffix : rest <:+ s
  brace : ∀ o, v = object o → 0x7D :: rest <:+ s

lemma Leaves.of_suffix {v : Json} {t : Bytes} (h : Leaves v t rest) (ht : t <:+ s) :
    Leaves v s rest :=
  ⟨h.suffix.trans ht, fun o ho => (h.brace o ho).trans ht⟩

theorem value_leaves {depth : Nat} {v : Json} (h : value depth s = some (v, rest)) :
    Leaves v s rest := by
  induction depth using Nat.strongRecOn generalizing s rest v with
  | ind depth ih =>
    rw [value.eq_def] at h
    dsimp only at h
    split at h
    · cases h
    · next b t hblank =>
      refine .of_suffix ?_ (suffix_of_dropBlank hblank List.suffix_rfl)
      split at h
      case h_7 =>
        simp only [Option.bind_eq_bind, Option.bind_eq_some_iff] at h
        obtain ⟨⟨x, u⟩, hread, n, -, heq⟩ := h
        cases heq
        exact ⟨numeral_suffix hread, by simp⟩
      all_goals refine .of_suffix ?_ (List.suffix_cons b t)
      case h_1 =>
        obtain ⟨⟨text, u⟩, hread, heq⟩ := Option.map_eq_some_iff.mp h
        cases heq
        exact ⟨literal_suffix hread, by simp⟩
      case h_5 =>
        cases depth with
        | zero => cases h
        | succ depth =>
          obtain ⟨⟨items, u⟩, hread, heq⟩ := Option.map_eq_some_iff.mp h
          cases heq
          have hitems := bracketed_suffix (fun hitem => (ih depth (by omega) hitem).suffix) hread
          exact ⟨(List.suffix_cons _ _).trans hitems, by simp⟩
      case h_6 =>
        cases depth with
        | zero => cases h
        | succ depth =>
          obtain ⟨⟨members, u⟩, hread, heq⟩ := Option.map_eq_some_iff.mp h
          cases heq
          have hmembers := bracketed_suffix
            (member_suffix · fun hvalue => (ih depth (by omega) hvalue).suffix) hread
          exact ⟨(List.suffix_cons _ _).trans hmembers, fun _ _ => hmembers⟩
      -- The words are left.
      all_goals
        obtain ⟨u, hread, heq⟩ := Option.map_eq_some_iff.mp h
        cases heq
        exact ⟨expect_suffix hread, by simp⟩

lemma object_suffix {depth : Nat} {o : Object} (h : objectWithin depth s = some (o, rest)) :
    0x7D :: rest <:+ s := by
  unfold objectWithin at h
  split at h
  · next o' t hvalue =>
    cases h
    exact (value_leaves hvalue).brace o rfl
  · cases h

/-- A text that is an object ends with a closing brace or a blank. -/
theorem last_of_whole_object {depth : Nat} {o : Object} {b : UInt8}
    (h : whole (objectWithin depth) (s ++ [b]) = some o) : b = 0x7D ∨ isBlank b = true := by
  unfold whole at h
  split at h
  · next x rest hread =>
    split at h
    · next hend =>
      obtain ⟨front, hfront⟩ := object_suffix hread
      have hblank : ∀ c ∈ rest, isBlank c = true :=
        List.dropWhile_eq_nil_iff.mp (List.isEmpty_iff.mp hend)
      have hlast : some (rest.getLast?.getD 0x7D) = some b := by
        simpa [List.getLast?_append, List.getLast?_cons] using congrArg List.getLast? hfront
      cases hrest : rest.getLast? with
      | none =>
        rw [hrest] at hlast
        exact .inl (Option.some.inj hlast).symm
      | some c =>
        rw [hrest] at hlast
        obtain rfl : c = b := Option.some.inj hlast
        exact .inr (hblank c (List.mem_of_getLast? hrest))
    · cases h
  · cases h

end Remainders

end Json

/-! ### Bodies -/

namespace Body

lemma capped_oversized {s : Bytes} (h : maxSize < s.length) :
    capped s = s.take maxSize ++ cutMark := by
  have hfits : fits s = false := by
    simp only [fits, decide_eq_false_iff_not]
    omega
  rw [capped, hfits, if_neg Bool.false_ne_true]

lemma cutMark_eq : cutMark = Utf8.encode "... [TRUNCATED" ++ [0x5D] := by decide

/-- A body that has been cut is no object. -/
lemma object_oversized {s : Bytes} (h : maxSize < s.length) : object? s = none := by
  rw [object?, capped_oversized h, cutMark_eq, ← List.append_assoc]
  cases hobject : Json.whole (Json.objectWithin Json.maxDepth)
      (s.take maxSize ++ Utf8.encode "... [TRUNCATED" ++ [0x5D]) with
  | none => rfl
  | some o =>
    rcases Json.last_of_whole_object hobject with hbrace | hblank
    · exact absurd hbrace (by decide)
    · exact absurd hblank (by decide)

lemma read_oversized {s : Bytes} (h : maxSize < s.length) : read s = .unreadable := by
  have hempty : s.isEmpty = false := by
    cases s with
    | nil => exact absurd h (Nat.not_lt_zero maxSize)
    | cons b s => rfl
  rw [read, hempty, object_oversized h]
  rfl

lemma recorded_oversized {s : Bytes} (h : maxSize < s.length) : recorded s = [] := by
  rw [recorded, read_oversized h]
  rfl

end Body

namespace Http

section Sent

variable {α : Type} (handler : Request → Response × α) (now : Instant) (r : Request) (n : Nat)

/-- An entry that the audit layer sends has the records of the two bodies. -/
lemma sent_audited {sent : Entry} {s : Bytes} {ending : Option String}
    (hcontent : Stream.Content r.body.toItems s ending)
    (h : some sent ∈ ((audited handler now r).1.body.use n).2) :
    sent.requestBody = Body.recorded s ∧
      sent.responseBody = Body.recorded ((audited handler now r).1.body.passed n) := by
  by_cases hreading : r.method = .get ∨ r.method = .head
  · rw [audited_reading hreading, Tee.use_finished rfl] at h
    exact (Option.some_ne_none sent (List.eq_of_mem_replicate h)).elim
  · rw [audited_writing (not_or.mp hreading)] at h ⊢
    have hawaits : Tee.Awaits ⟨(handler { r with body := (readRequestBody r.body).2 }).1.body, [],
        some (entryOf now r r.body.read.1.flatten
          (handler { r with body := (readRequestBody r.body).2 }).1)⟩ _ [] := ⟨rfl, rfl⟩
    rw [Tee.sent_awaits hawaits h, ← (Stream.read_of_content hcontent).1]
    exact ⟨rfl, rfl⟩

/-- Of octets that are too many for a body nothing is recorded, whatever they spell. So an entry
whose request or response had such a body, as far as it was read, tells nothing of it. -/
theorem oversized_body_leaves_no_trace {s : Bytes} (h : Body.maxSize < s.length) :
    Body.read s = .unreadable ∧ Body.recorded s = [] ∧
      let body := (audited handler now r).1.body
      ∀ sent, some sent ∈ (body.use n).2 →
        (∀ ending, Stream.Content r.body.toItems s ending → sent.requestBody = []) ∧
          (body.passed n = s → sent.responseBody = []) := by
  have hnothing := Body.recorded_oversized h
  refine ⟨Body.read_oversized h, hnothing, fun sent hsent =>
    ⟨fun ending hcontent => ?_, fun hpassed => ?_⟩⟩
  · rw [(sent_audited handler now r n hcontent hsent).1, hnothing]
  · rw [(sent_audited handler now r n (Stream.content_read r.body) hsent).2, hpassed, hnothing]

end Sent

/-- A body of one piece makes its entry be sent at its end. -/
lemma use_single (e : Entry) (s : Bytes) :
    (∃ sent, (Tee.use 2 ⟨.items [.data s], [], some e⟩).2 = [none, some sent, none]) ∧
      Tee.passed 2 ⟨.items [.data s], [], some e⟩ = s :=
  ⟨⟨_, rfl⟩, List.append_nil s⟩

/-- An object with blanks after it up to the limit is recorded. With one blank more neither a
request nor a response with these octets leaves a trace of them. -/
theorem padded_object_leaves_no_trace :
    let o : Json.Object := [("a", .bool true)]
    let s := Json.encode (.object o) ++ List.replicate 10231 0x20
    let handler : Request → Response × Unit := fun _ => (⟨200, [], none, .items [.data s]⟩, ())
    let r : Request := ⟨⟨"POST"⟩, ⟨"/app", none⟩, [], none, none, .items [.data s]⟩
    let body := (audited handler ⟨0, 0⟩ r).1.body
    s.length = Body.maxSize + 1 ∧ Body.recorded (s.take Body.maxSize) = o ∧
      Body.read s = .unreadable ∧
      ∃ sent, (body.use 2).2 = [none, some sent, none] ∧
        sent.requestBody = [] ∧ sent.responseBody = [] := by
  intro o s handler r body
  have hobject : (Json.encode (.object o)).length = 10 := rfl
  have hlength : s.length = Body.maxSize + 1 := by
    rw [List.length_append, List.length_replicate, hobject]
    rfl
  have hprefix : Body.recorded (s.take Body.maxSize) = o := by
    have htake : s.take Body.maxSize = Json.encode (.object o) ++ List.replicate 10230 0x20 := by
      have hroom : min (Body.maxSize - 10) 10231 = 10230 := by decide
      rw [List.take_append, List.take_of_length_le (by rw [hobject]; decide), List.take_replicate,
        hobject, hroom]
    have hfits : Body.fits (Json.encode (.object o) ++ List.replicate 10230 0x20) = true := by
      rw [Body.fits, List.length_append, List.length_replicate, hobject]
      rfl
    rw [htake]
    refine Sink.recorded_padded ?_ hfits (.object ?_) (.object (List.pairwise_singleton _ _) ?_)
    · intro b hb
      rw [List.eq_of_mem_replicate hb]
      rfl
    · exact List.forall_mem_singleton.mpr (.bool true)
    · exact List.forall_mem_singleton.mpr (.bool true)
  have hlong : Body.maxSize < s.length := by omega
  clear_value s
  obtain ⟨hread, -, hsent⟩ := oversized_body_leaves_no_trace handler ⟨0, 0⟩ r 2 hlong
  obtain ⟨⟨sent, huse⟩, hpassed⟩ :=
    use_single (entryOf ⟨0, 0⟩ r r.body.read.1.flatten (handler r).1) s
  have hbody : body = ⟨.items [.data s], [], some (entryOf ⟨0, 0⟩ r r.body.read.1.flatten
      (handler r).1)⟩ := by
    have hwriting : Method.mk "POST" ≠ .get ∧ Method.mk "POST" ≠ .head := by decide
    have haudited := @audited_writing _ handler ⟨0, 0⟩ r hwriting
    simp only [body, haudited]
    rfl
  rw [← hbody] at huse hpassed
  obtain ⟨hrequest, hresponse⟩ := hsent sent (by rw [huse]; simp)
  have hcontent : Stream.Content [.data s] (s ++ []) none := .data .ended
  rw [List.append_nil] at hcontent
  exact ⟨hlength, hprefix, hread, sent, huse, hrequest none hcontent, hresponse hpassed⟩

end Http
end AuditTrail
