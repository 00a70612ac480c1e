import AuditTrail.Entry.Record
import AuditTrail.Proofs.Values

/-!
# Texts that are read close what they open

A scan of a text counts the containers that are open and notes whether it stands inside a string.
Right after a string or a container it accepts only what may follow a value. Every reader takes the
scan from the front of what it has read to the end of it with the same containers open. So a text
that leaves a container or a string open, or goes on with another value where one has ended, is not
read as an entry.
-/

namespace AuditTrail

open Utf8

namespace Json

/-- Where a scan stands: outside of strings, right after a string or a container, in a string, or
in a string after a backslash. -/
inductive Mode where
  | free
  | closed
  | quoted
  | escaped
  deriving DecidableEq

/-- The number of open containers, and where the scan stands. -/
structure Scan where
  depth : Nat
  mode : Mode
  deriving DecidableEq

namespace Scan

/-- The scan after the end of a container. -/
def leave? (c : Scan) : Option Scan :=
  match c.depth with
  | 0 => none
  | depth + 1 => some ⟨depth, .closed⟩

def step? (c : Scan) (b : UInt8) : Option Scan :=
  match c.mode with
  | .free =>
    if b = 0x22 then some ⟨c.depth, .quoted⟩
    else if b = 0x5B ∨ b = 0x7B then some ⟨c.depth + 1, .free⟩
    else if b = 0x5D ∨ b = 0x7D then c.leave?
    else some c
  | .closed =>
    if isBlank b then some c
    else if b = 0x2C ∨ b = 0x3A then some ⟨c.depth, .free⟩
    else if b = 0x5D ∨ b = 0x7D then c.leave?
    else none
  | .quoted =>
    if b = 0x22 then some ⟨c.depth, .closed⟩
    else if b = 0x5C then some ⟨c.depth, .escaped⟩
    else some c
  | .escaped => some ⟨c.depth, .quoted⟩

end Scan

/-- The scan of a text. -/
def scan? (c : Scan) (s : Bytes) : Option Scan :=
  s.foldlM Scan.step? c

lemma scan_cons (c : Scan) (b : UInt8) (s : Bytes) :
    scan? c (b :: s) = (c.step? b).bind (scan? · s) := rfl

lemma scan_append (c : Scan) (s t : Bytes) :
    scan? c (s ++ t) = (scan? c s).bind (scan? · t) :=
  List.foldlM_append

lemma scan_step {c c' : Scan} {b : UInt8} (h : c.step? b = some c') (s : Bytes) :
    scan? c (b :: s) = scan? c' s := by
  rw [scan_cons, h, Option.bind_some]

/-- The same scan with a container more around it. -/
def Scan.deeper (c : Scan) : Scan := { c with depth := c.depth + 1 }

lemma step_deeper {c c' : Scan} {b : UInt8} (h : c.step? b = some c') :
    c.deeper.step? b = some c'.deeper := by
  obtain ⟨depth, mode⟩ := c
  cases mode <;> simp only [Scan.step?, Scan.deeper, Scan.leave?] at h ⊢ <;> grind

lemma scan_deeper {c c' : Scan} {s : Bytes} (h : scan? c s = some c') :
    scan? c.deeper s = some c'.deeper := by
  induction s generalizing c with
  | nil =>
    cases h
    rfl
  | cons b s ih =>
    rw [scan_cons] at h
    obtain ⟨c₁, hstep, hrest⟩ := Option.bind_eq_some_iff.mp h
    rw [scan_step (step_deeper hstep), ih hrest]

section Octets

variable {d : Nat} {m : Mode}

/-- Whether a scan stands where a value may begin or has ended. -/
def Mode.IsOutside (m : Mode) : Prop := m = .free ∨ m = .closed

lemma step_blank (hm : m.IsOutside) {b : UInt8} (h : isBlank b = true) :
    Scan.step? ⟨d, m⟩ b = some ⟨d, m⟩ := by
  have hb := (isBlank_iff b).mp h
  rcases hm with rfl | rfl
  · have hplain : b ≠ 0x22 ∧ ¬(b = 0x5B ∨ b = 0x7B) ∧ ¬(b = 0x5D ∨ b = 0x7D) := by
      simp only [← UInt8.toNat_inj, UInt8.reduceToNat, ne_eq]
      omega
    simp only [Scan.step?, hplain, if_false]
  · simp only [Scan.step?, h, if_true]

lemma scan_dropBlank (hm : m.IsOutside) (s : Bytes) :
    scan? ⟨d, m⟩ (dropBlank s) = scan? ⟨d, m⟩ s := by
  induction s with
  | nil => rfl
  | cons b s ih =>
    by_cases hb : isBlank b = true
    · have hdrop : dropBlank (b :: s) = dropBlank s := List.dropWhile_cons_of_pos hb
      rw [hdrop, ih, scan_step (step_blank hm hb)]
    · rw [dropBlank_cons (by simpa using hb)]

lemma scan_comma (hm : m.IsOutside) (s : Bytes) :
    scan? ⟨d, m⟩ (0x2C :: s) = scan? ⟨d, .free⟩ s := by
  rcases hm with rfl | rfl <;> rfl

lemma scan_colon (hm : m.IsOutside) (s : Bytes) :
    scan? ⟨d, m⟩ (0x3A :: s) = scan? ⟨d, .free⟩ s := by
  rcases hm with rfl | rfl <;> rfl

/-- The octets that end a container. -/
inductive Closes : UInt8 → Prop where
  | bracket : Closes 0x5D
  | brace : Closes 0x7D

lemma scan_close {close : UInt8} (h : Closes close) (hm : m.IsOutside) (s : Bytes) :
    scan? ⟨d + 1, m⟩ (close :: s) = scan? ⟨d, .closed⟩ s := by
  rcases hm with rfl | rfl <;> cases h <;> rfl

/-- Octets that mean nothing to a scan outside of strings. -/
def isInert (b : UInt8) : Bool :=
  b != 0x22 && b != 0x5B && b != 0x5D && b != 0x7B && b != 0x7D

lemma scan_inert {front : Bytes} (h : front.all isInert = true) (s : Bytes) :
    scan? ⟨d, .free⟩ (front ++ s) = scan? ⟨d, .free⟩ s := by
  induction front with
  | nil => rfl
  | cons b front ih =>
    simp only [List.all_cons, Bool.and_eq_true] at h
    have hstep : Scan.step? ⟨d, .free⟩ b = some ⟨d, .free⟩ := by
      have hb := h.1
      simp only [isInert, Bool.and_eq_true, bne_iff_ne, ne_eq] at hb
      simp only [Scan.step?, hb, or_self, if_false]
    rw [List.cons_append, scan_step hstep, ih h.2]

end Octets

/-! ### Readers -/

/-- A value that stands in front of `rest` in the text `s`: the scan goes from before to after it
with the same containers open. -/
def Passed (s rest : Bytes) : Prop :=
  ∃ m : Mode, m.IsOutside ∧ ∀ d, scan? ⟨d, .free⟩ s = scan? ⟨d, m⟩ rest

section Readers

variable {α : Type} {s rest : Bytes}

lemma scan_split {lit : Bytes} (h : Literal.split s = some (lit, rest)) (d : Nat) :
    scan? ⟨d, .quoted⟩ s = scan? ⟨d, .closed⟩ rest := by
  fun_induction Literal.split s generalizing lit with
  | case1 => cases h
  | case2 s =>
    cases h
    rfl
  | case3 => cases h
  | case4 c s hquote ih =>
    obtain ⟨⟨lit', rest'⟩, hsplit, heq⟩ := Option.map_eq_some_iff.mp h
    cases heq
    exact ih hsplit
  | case5 b s hquote hback hcontrol => cases h
  | case6 b s hquote hback hcontrol ih =>
    obtain ⟨⟨lit', rest'⟩, hsplit, heq⟩ := Option.map_eq_some_iff.mp h
    cases heq
    have hstep : Scan.step? ⟨d, .quoted⟩ b = some ⟨d, .quoted⟩ := by
      simp only [Scan.step?, hquote, hback, if_false]
    rw [scan_step hstep, ih hsplit]

lemma scan_literal {text : String} (h : Literal.read s = some (text, rest)) (d : Nat) :
    scan? ⟨d, .free⟩ (0x22 :: s) = scan? ⟨d, .closed⟩ rest := by
  simp only [Literal.read, Option.bind_eq_bind, Option.bind_eq_some_iff] at h
  obtain ⟨⟨lit, t⟩, hsplit, text, -, heq⟩ := h
  cases heq
  exact scan_split hsplit d

lemma scan_pass (h : Literal.pass s = some rest) (d : Nat) :
    scan? ⟨d, .free⟩ (0x22 :: s) = scan? ⟨d, .closed⟩ rest := by
  simp only [Literal.pass, Option.bind_eq_bind, Option.bind_eq_some_iff] at h
  obtain ⟨⟨lit, t⟩, hsplit, heq⟩ := h
  split at heq
  · cases heq
    exact scan_split hsplit d
  · cases heq

lemma eq_of_expect {word : Bytes} (h : expect word s = some rest) : s = word ++ rest := by
  induction word generalizing s with
  | nil => exact Option.some.inj h
  | cons b word ih =>
    cases s with
    | nil => cases h
    | cons c s =>
      rw [expect] at h
      split at h
      · next heq => rw [heq, ih h, List.cons_append]
      · cases h

lemma scan_expect {word : Bytes} (hword : word.all isInert = true)
    (h : expect word s = some rest) (d : Nat) :
    scan? ⟨d, .free⟩ s = scan? ⟨d, .free⟩ rest := by
  rw [eq_of_expect h, scan_inert hword]

lemma digits_inert {s : Bytes} (h : s.all Numeral.isDigit = true) : s.all isInert = true := by
  rw [List.all_eq_true] at h ⊢
  intro b hb
  have hdigit := (Numeral.isDigit_iff b).mp (h b hb)
  simp only [isInert, Bool.and_eq_true, bne_iff_ne, ne_eq, ← UInt8.toNat_inj, UInt8.reduceToNat]
  omega

lemma scan_digits {digits : List Nat} (h : Numeral.someDigits? s = some (digits, rest)) (d : Nat) :
    scan? ⟨d, .free⟩ s = scan? ⟨d, .free⟩ rest := by
  have hspan : Numeral.someDigits? s =
      if (Numeral.spanDigits s).1.isEmpty then none else some (Numeral.spanDigits s) := rfl
  rw [hspan] at h
  split at h
  · cases h
  · have hrest : rest = s.dropWhile Numeral.isDigit := (congrArg Prod.snd (Option.some.inj h)).symm
    have hdigits : (s.takeWhile Numeral.isDigit).all Numeral.isDigit = true :=
      List.all_takeWhile
    conv_lhs => rw [← List.takeWhile_append_dropWhile (p := Numeral.isDigit) (l := s)]
    rw [scan_inert (digits_inert hdigits), hrest]

lemma scan_whole {digits : List Nat} (h : Numeral.readWhole s = some (digits, rest)) (d : Nat) :
    scan? ⟨d, .free⟩ s = scan? ⟨d, .free⟩ rest := by
  unfold Numeral.readWhole at h
  split at h
  · cases h
  · exact scan_digits h d

lemma scan_fraction {fraction : Option (List Nat)}
    (h : Numeral.readFraction s = some (fraction, rest)) (d : Nat) :
    scan? ⟨d, .free⟩ s = scan? ⟨d, .free⟩ rest := by
  unfold Numeral.readFraction at h
  split at h
  · obtain ⟨⟨digits, t⟩, hdigits, heq⟩ := Option.map_eq_some_iff.mp h
    cases heq
    exact scan_digits hdigits d
  · cases h
    rfl

lemma scan_exponent {exponent : Option Exponent}
    (h : Numeral.readExponent s = some (exponent, rest)) (d : Nat) :
    scan? ⟨d, .free⟩ s = scan? ⟨d, .free⟩ rest := by
  unfold Numeral.readExponent at h
  split at h
  · cases h
    rfl
  · next b r =>
    split at h
    · next hletter =>
      have hfirst : scan? ⟨d, .free⟩ (b :: r) = scan? ⟨d, .free⟩ r := by
        rcases hletter with rfl | rfl <;> rfl
      rw [hfirst]
      dsimp only at h
      obtain ⟨⟨digits, t⟩, hdigits, heq⟩ := Option.map_eq_some_iff.mp h
      cases heq
      rw [← scan_digits hdigits d]
      split <;> rfl
    · cases h
      rfl

/-- A numeral is passed over octet by octet. -/
lemma scan_numeral {x : Numeral} (h : Numeral.read s = some (x, rest)) (d : Nat) :
    scan? ⟨d, .free⟩ s = scan? ⟨d, .free⟩ rest := by
  simp only [Numeral.read, Option.bind_eq_bind, Option.bind_eq_some_iff] at h
  obtain ⟨⟨whole, t⟩, hwhole, ⟨fraction, t'⟩, hfraction, ⟨exponent, t''⟩, hexponent, heq⟩ := h
  cases heq
  rw [← scan_exponent hexponent, ← scan_fraction hfraction, ← scan_whole hwhole]
  split <;> rfl

lemma scan_colon_read {m : Mode} (hm : m.IsOutside) (h : colon s = some rest) (d : Nat) :
    scan? ⟨d, m⟩ s = scan? ⟨d, .free⟩ rest := by
  unfold colon at h
  split at h
  · next heq =>
    cases h
    rw [← scan_dropBlank hm, heq, scan_colon hm]
  · cases h

lemma scan_key {k : String} (h : key s = some (k, rest)) (d : Nat) :
    scan? ⟨d, .free⟩ s = scan? ⟨d, .closed⟩ rest := by
  unfold key at h
  split at h
  · next heq => rw [← scan_dropBlank (.inl rfl), heq, scan_literal h]
  · cases h

lemma key_passed {k : String} (h : key s = some (k, rest)) : Passed s rest :=
  ⟨.closed, .inr rfl, scan_key h⟩

/-- What comes before a value does not matter as long as it leaves the scan where a value may
begin. -/
lemma Passed.of_scan {s' : Bytes} (h : ∀ d, scan? ⟨d, .free⟩ s = scan? ⟨d, .free⟩ s')
    (hpassed : Passed s' rest) : Passed s rest := by
  obtain ⟨m, hm, hscan⟩ := hpassed
  exact ⟨m, hm, fun d => (h d).trans (hscan d)⟩

lemma member_passed {item : Reader α} {x : String × α} (h : member item s = some (x, rest))
    (hitem : ∀ {s x rest}, item s = some (x, rest) → Passed s rest) : Passed s rest := by
  simp only [member, Option.bind_eq_bind, Option.bind_eq_some_iff] at h
  obtain ⟨⟨k, s₁⟩, hkey, s₂, hcolon, ⟨v, s₃⟩, hvalue, heq⟩ := h
  cases heq
  exact .of_scan (fun d => (scan_key hkey d).trans (scan_colon_read (.inr rfl) hcolon d))
    (hitem hvalue)

variable {close : UInt8} {item : Reader α}

/-- From before an item to after the end of the container. -/
lemma scan_separated (hclose : Closes close)
    (hitem : ∀ {s x rest}, item s = some (x, rest) → Passed s rest) {n : Nat} {xs : List α}
    (h : separated close item n s = some (xs, rest)) (d : Nat) :
    scan? ⟨d + 1, .free⟩ s = scan? ⟨d, .closed⟩ rest := by
  induction n generalizing s xs with
  | zero => cases h
  | succ n ih =>
    rw [separated] at h
    split at h
    · cases h
    · next x t hread =>
      obtain ⟨m, hm, hscan⟩ := hitem hread
      rw [hscan, ← scan_dropBlank hm]
      split at h
      · cases h
      · next b u hblank =>
        rw [hblank]
        split at h
        · next heq =>
          cases h
          rw [heq, scan_close hclose hm]
        · split at h
          · next heq =>
            obtain ⟨⟨ys, r⟩, hrest, heq'⟩ := Option.map_eq_some_iff.mp h
            cases heq'
            rw [heq, scan_comma hm, ih hrest]
          · cases h

lemma scan_bracketed (hclose : Closes close)
    (hitem : ∀ {s x rest}, item s = some (x, rest) → Passed s rest) {xs : List α}
    (h : bracketed close item s = some (xs, rest)) (d : Nat) :
    scan? ⟨d + 1, .free⟩ s = scan? ⟨d, .closed⟩ rest := by
  simp only [bracketed] at h
  split at h
  · cases h
  · next b t hblank =>
    split at h
    · next heq =>
      cases h
      rw [← scan_dropBlank (.inl rfl), hblank, heq, scan_close hclose (.inl rfl)]
    · exact scan_separated hclose hitem h d

lemma octet_eq {b : UInt8} {c : Char} (h : Char.ofUInt8 b = c) : b = UInt8.ofNat c.toNat := by
  have hnat : c.toNat = b.toNat := by
    rw [← h]
    exact UInt8.toNat_toUInt32 b
  rw [hnat, UInt8.ofNat_toNat]

/-- From before the blanks in front of a value. -/
lemma Passed.of_blank {t : Bytes} (hblank : dropBlank s = t) (h : Passed t rest) :
    Passed s rest :=
  .of_scan (fun d => by rw [← hblank, scan_dropBlank (.inl rfl)]) h

/-- A word, told by its first letter `c`. -/
lemma word_passed {β : Type} {v x : β} {b : UInt8} {c : Char} {word : Bytes}
    (hb : Char.ofUInt8 b = c) (hword : (UInt8.ofNat c.toNat :: word).all isInert = true)
    (h : (expect word s).map (fun s => (v, s)) = some (x, rest)) : Passed (b :: s) rest := by
  obtain ⟨t, hread, heq⟩ := Option.map_eq_some_iff.mp h
  cases heq
  refine ⟨.free, .inl rfl, fun d => ?_⟩
  rw [octet_eq hb, eq_of_expect hread, ← List.cons_append, scan_inert hword]

lemma items_passed (hitem : ∀ {s x rest}, item s = some (x, rest) → Passed s rest)
    {xs : List α} (h : bracketed 0x5D item s = some (xs, rest)) : Passed (0x5B :: s) rest :=
  ⟨.closed, .inr rfl, scan_bracketed .bracket hitem h⟩

lemma members_passed (hitem : ∀ {s x rest}, item s = some (x, rest) → Passed s rest)
    {xs : List α} (h : bracketed 0x7D item s = some (xs, rest)) : Passed (0x7B :: s) rest :=
  ⟨.closed, .inr rfl, scan_bracketed .brace hitem h⟩

/-- Every value that is read is passed. -/
theorem value_passed {depth : Nat} {v : Json} (h : value depth s = some (v, rest)) :
    Passed s rest := by
  induction depth using Nat.strongRecOn generalizing s rest v with
  | ind depth ih =>
    rw [value.eq_def] at h
    dsimp only at h
    split at h
    · cases h
    · next b t hblank =>
      refine .of_blank hblank ?_
      split at h
      · next hb =>
        obtain ⟨⟨text, u⟩, hread, heq⟩ := Option.map_eq_some_iff.mp h
        cases heq
        rw [show b = 0x22 from octet_eq hb]
        exact ⟨.closed, .inr rfl, scan_literal hread⟩
      · next hb => exact word_passed hb (by rfl) h
      · next hb => exact word_passed hb (by rfl) h
      · next hb => exact word_passed hb (by rfl) h
      · next hb =>
        rw [show b = 0x5B from octet_eq hb]
        cases depth with
        | zero => cases h
        | succ depth =>
          obtain ⟨⟨items, u⟩, hread, heq⟩ := Option.map_eq_some_iff.mp h
          cases heq
          exact items_passed (ih depth (Nat.lt_succ_self depth)) hread
      · next hb =>
        rw [show b = 0x7B from octet_eq hb]
        cases depth with
        | zero => cases h
        | succ depth =>
          obtain ⟨⟨members, u⟩, hread, heq⟩ := Option.map_eq_some_iff.mp h
          cases heq
          exact members_passed (member_passed · (ih depth (Nat.lt_succ_self depth))) hread
      · simp only [Option.bind_eq_bind, Option.bind_eq_some_iff] at h
        obtain ⟨⟨x, u⟩, hread, n, -, heq⟩ := h
        cases heq
        exact ⟨.free, .inl rfl, scan_numeral hread⟩

lemma skipWithin_passed {depth : Nat} {u : Unit} (h : skipWithin depth s = some (u, rest)) :
    Passed s rest := by
  induction depth using Nat.strongRecOn generalizing s rest u with
  | ind depth ih =>
    rw [skipWithin.eq_def] at h
    dsimp only at h
    split at h
    · cases h
    · next b t hblank =>
      refine .of_blank hblank ?_
      split at h
      · next hb =>
        obtain ⟨r, hread, heq⟩ := Option.map_eq_some_iff.mp h
        cases heq
        rw [show b = 0x22 from octet_eq hb]
        exact ⟨.closed, .inr rfl, scan_pass hread⟩
      · next hb => exact word_passed hb (by rfl) h
      · next hb => exact word_passed hb (by rfl) h
      · next hb => exact word_passed hb (by rfl) h
      · next hb =>
        rw [show b = 0x5B from octet_eq hb]
        cases depth with
        | zero => cases h
        | succ depth =>
          obtain ⟨⟨items, r⟩, hread, heq⟩ := Option.map_eq_some_iff.mp h
          cases heq
          exact items_passed (ih depth (Nat.lt_succ_self depth)) hread
      · next hb =>
        rw [show b = 0x7B from octet_eq hb]
        cases depth with
        | zero => cases h
        | succ depth =>
          obtain ⟨⟨members, r⟩, hread, heq⟩ := Option.map_eq_some_iff.mp h
          cases heq
          refine members_passed (fun hmember => ?_) hread
          simp only [Option.bind_eq_bind] at hmember
          split at hmember
          · next hquote =>
            obtain ⟨s₁, hpass, hmember⟩ := Option.bind_eq_some_iff.mp hmember
            obtain ⟨s₂, hcolon, hvalue⟩ := Option.bind_eq_some_iff.mp hmember
            have hpassed : Passed s₂ _ := ih depth (Nat.lt_succ_self depth) hvalue
            refine .of_blank hquote (.of_scan (fun d => ?_) hpassed)
            rw [scan_pass hpass, scan_colon_read (.inr rfl) hcolon]
          · cases hmember
      · obtain ⟨⟨x, r⟩, hread, heq⟩ := Option.map_eq_some_iff.mp h
        cases heq
        exact ⟨.free, .inl rfl, scan_numeral hread⟩

lemma skip_passed {u : Unit} (h : skip s = some (u, rest)) : Passed s rest :=
  skipWithin_passed h

lemma text_passed {k : String} (h : text s = some (k, rest)) : Passed s rest :=
  key_passed h

lemma natBelow_passed {bound n : Nat} (h : natBelow bound s = some (n, rest)) : Passed s rest := by
  unfold natBelow at h
  split at h
  · next v t hvalue =>
    obtain ⟨k, -, heq⟩ := Option.map_eq_some_iff.mp h
    cases heq
    exact value_passed hvalue
  · cases h

lemma objectWithin_passed {depth : Nat} {o : Object} (h : objectWithin depth s = some (o, rest)) :
    Passed s rest := by
  unfold objectWithin at h
  split at h
  · next o' t hvalue =>
    cases h
    exact value_passed hvalue
  · cases h

end Readers

end Json

/-! ### Entries -/

namespace Entry

open Json Draft

variable {s rest : Bytes} {depth : Nat}

lemma role_passed {r : Role} (h : Role.read depth s = some (r, rest)) : Passed s rest := by
  unfold Role.read at h
  split at h
  · next t hblank =>
    simp only [Option.bind_eq_bind, Option.bind_eq_some_iff] at h
    obtain ⟨⟨name, u⟩, hread, role, -, heq⟩ := h
    cases heq
    exact .of_blank hblank ⟨.closed, .inr rfl, scan_literal hread⟩
  · next t hblank =>
    split at h
    · cases h
    · simp only [Option.bind_eq_bind, Option.bind_eq_some_iff] at h
      obtain ⟨⟨⟨name, v⟩, u⟩, hmember, role, -, h⟩ := h
      have hnull : ∀ {s x rest}, (do
          let s ← expect [0x6E, 0x75, 0x6C, 0x6C] (dropBlank s)
          some ((), s) : Option (Unit × Bytes)) = some (x, rest) → Passed s rest := by
        intro s x rest hread
        simp only [Option.bind_eq_bind, Option.bind_eq_some_iff] at hread
        obtain ⟨r, hexpect, heq⟩ := hread
        cases heq
        exact .of_blank rfl ⟨.free, .inl rfl, scan_expect (by rfl) hexpect⟩
      obtain ⟨m, hm, hscan⟩ := member_passed hmember hnull
      split at h
      · next w hclose =>
        cases h
        refine .of_blank hblank ⟨.closed, .inr rfl, fun d => ?_⟩
        calc scan? ⟨d, .free⟩ (0x7B :: t) = scan? ⟨d + 1, m⟩ u := hscan (d + 1)
          _ = scan? ⟨d + 1, m⟩ (0x7D :: rest) := by rw [← hclose, scan_dropBlank hm]
          _ = scan? ⟨d, .closed⟩ rest := scan_close .brace hm rest
      · cases h
  · cases h

lemma instant_passed {t : Time.Instant} (h : Time.Instant.read s = some (t, rest)) :
    Passed s rest := by
  simp only [Time.Instant.read, Option.bind_eq_bind, Option.bind_eq_some_iff] at h
  obtain ⟨⟨text, u⟩, htext, t, -, heq⟩ := h
  cases heq
  exact text_passed htext

lemma once_passed {α : Type} {old : Option α} {reader : Reader α} {put : Option α → Draft}
    {d : Draft} (hreader : ∀ {s x rest}, reader s = some (x, rest) → Passed s rest)
    (h : once old reader put s = some (d, rest)) : Passed s rest := by
  unfold once at h
  split at h
  · cases h
  · obtain ⟨⟨x, u⟩, hread, heq⟩ := Option.map_eq_some_iff.mp h
    cases heq
    exact hreader hread

lemma field_passed {d d' : Draft} (f : Field) (h : d.read depth f s = some (d', rest)) :
    Passed s rest := by
  cases f <;> simp only [Draft.read] at h
  case method => exact once_passed text_passed h
  case url => exact once_passed text_passed h
  case status => exact once_passed natBelow_passed h
  case userId => exact once_passed natBelow_passed h
  case userIp => exact once_passed text_passed h
  case userRole => exact once_passed role_passed h
  case receivedAt => exact once_passed instant_passed h
  case requestBody => exact once_passed objectWithin_passed h
  case responseBody => exact once_passed objectWithin_passed h

/-- From before a member to after the closing brace. -/
lemma scan_members {n : Nat} {d d' : Draft} (h : readMembers depth n d s = some (d', rest))
    (k : Nat) : scan? ⟨k + 1, .free⟩ s = scan? ⟨k, .closed⟩ rest := by
  induction n generalizing d s with
  | zero => cases h
  | succ n ih =>
    simp only [readMembers, Option.bind_eq_bind, Option.bind_eq_some_iff] at h
    obtain ⟨⟨name, s₁⟩, hkey, s₂, hcolon, h⟩ := h
    rw [scan_key hkey, scan_colon_read (.inr rfl) hcolon]
    split at h
    case' h_1 =>
      obtain ⟨⟨d₁, s₃⟩, hvalue, h⟩ := Option.bind_eq_some_iff.mp h
      have hpassed : Passed s₂ s₃ := field_passed _ hvalue
    case' h_2 =>
      obtain ⟨⟨d₁, s₃⟩, hvalue, h⟩ := Option.bind_eq_some_iff.mp h
      obtain ⟨⟨u, t⟩, hskip, heq⟩ := Option.map_eq_some_iff.mp hvalue
      cases heq
      have hpassed : Passed s₂ t := skip_passed hskip
    -- What comes after the value is the same for a member that is known and for one that is not.
    all_goals
      obtain ⟨m, hm, hscan⟩ := hpassed
      rw [hscan, ← scan_dropBlank hm]
      split at h
      · next t hblank =>
        cases h
        rw [hblank, scan_close .brace hm]
      · next t hblank => rw [hblank, scan_comma hm, ih h]
      · cases h

/-- From before a value to after the closing bracket. -/
lemma scan_values {fs : List Field} {m : Mode} (hm : m.IsOutside) {d d' : Draft}
    (hmode : fs ≠ [] → m = .free) (h : readValues depth fs d s = some (d', rest)) (k : Nat) :
    scan? ⟨k + 1, m⟩ s = scan? ⟨k, .closed⟩ rest := by
  induction fs generalizing d s m with
  | nil =>
    simp only [readValues] at h
    split at h
    · next t hblank =>
      cases h
      rw [← scan_dropBlank hm, hblank, scan_close .bracket hm]
    · cases h
  | cons f fs ih =>
    rw [hmode (by simp)]
    simp only [readValues, Option.bind_eq_bind, Option.bind_eq_some_iff] at h
    obtain ⟨⟨d₁, s₁⟩, hvalue, h⟩ := h
    obtain ⟨m₁, hm₁, hscan⟩ := field_passed f hvalue
    rw [hscan]
    split at h
    · next hlast => exact ih hm₁ (fun hne => (hne (by simpa using hlast)).elim) h
    · split at h
      · next t hblank =>
        rw [← scan_dropBlank hm₁, hblank, scan_comma hm₁]
        exact ih (.inl rfl) (fun _ => rfl) h
      · cases h

lemma entry_passed {e : Entry} (h : read depth s = some (e, rest)) : Passed s rest := by
  unfold read at h
  split at h
  · next t hblank =>
    simp only [Option.bind_eq_bind, Option.bind_eq_some_iff] at h
    obtain ⟨⟨d, u⟩, hmembers, e', -, heq⟩ := h
    cases heq
    exact .of_blank hblank ⟨.closed, .inr rfl, scan_members hmembers⟩
  · next t hblank =>
    simp only [Option.bind_eq_bind, Option.bind_eq_some_iff] at h
    obtain ⟨⟨d, u⟩, hvalues, e', -, heq⟩ := h
    cases heq
    exact .of_blank hblank ⟨.closed, .inr rfl, scan_values (.inl rfl) (fun _ => rfl) hvalues⟩
  · cases h

/-- A text that is read as an entry leaves nothing open. -/
theorem scan_of_parse {e : Entry} (h : parse? s = some e) :
    ∃ m : Mode, m.IsOutside ∧ scan? ⟨0, .free⟩ s = some ⟨0, m⟩ := by
  unfold parse? whole at h
  split at h
  · next x t hread =>
    split at h
    · next hend =>
      obtain ⟨m, hm, hscan⟩ := entry_passed hread
      have hnone : dropBlank t = [] := List.isEmpty_iff.mp hend
      refine ⟨m, hm, ?_⟩
      rw [hscan, ← scan_dropBlank hm, hnone]
      rfl
    · cases h
  · cases h

end Entry
end AuditTrail
