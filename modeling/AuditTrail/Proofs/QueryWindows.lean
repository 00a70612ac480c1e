import AuditTrail.Proofs.Paging
import AuditTrail.Proofs.StrictTimes

/-!
# Which queries are refused

A query is refused for its times and its user only: one of them cannot be read, or the window they
ask for is turned round or too long for all users. Any other query is answered with what its
parameters give, and with the default in the place of what they do not.
-/

namespace AuditTrail

open Time (Instant IsStrictTime)

lemma Word.limit64_eq : Word.limit64 = 2 ^ 64 := rfl

namespace Text

/-- The texts of 64-bit numbers: digits, with or without a plus sign. -/
def IsWord (s : String) (n : Nat) : Prop :=
  ∃ ds : List Char, (s.toList = ds ∨ s.toList = '+' :: ds) ∧ ds ≠ [] ∧
    (∀ c ∈ ds, c.isDigit = true) ∧ n = decimal ds ∧ n < 2 ^ 64

lemma digits_eq_some {cs : List Char} {n : Nat} :
    digits? cs = some n ↔ cs ≠ [] ∧ (∀ c ∈ cs, c.isDigit = true) ∧ n = decimal cs := by
  unfold digits?
  simp only [ofDigits_eq, Option.ite_none_right_eq_some, Option.some.injEq, Bool.and_eq_true,
    Bool.not_eq_true', List.isEmpty_eq_false_iff, List.all_eq_true, and_assoc]
  rw [@eq_comm _ n]

lemma word_eq_some {s : String} {n : Nat} : word? s = some n ↔ IsWord s n := by
  have hread : ∀ ds, (digits? ds).filter (· < Word.limit64) = some n ↔
      ds ≠ [] ∧ (∀ c ∈ ds, c.isDigit = true) ∧ n = decimal ds ∧ n < 2 ^ 64 := by
    intro ds
    rw [Word.limit64_eq, Option.filter_eq_some_iff, digits_eq_some, decide_eq_true_eq, and_assoc,
      and_assoc]
  unfold word? natBelow? IsWord
  generalize s.toList = cs
  constructor
  · intro h
    split at h
    · next ds => exact ⟨ds, .inr rfl, (hread ds).mp h⟩
    · exact ⟨cs, .inl rfl, (hread cs).mp h⟩
  · rintro ⟨ds, rfl | rfl, h⟩
    -- A text that is digits alone does not begin with a plus sign.
    · split
      · next ds =>
        have hplus := h.2.1 '+' List.mem_cons_self
        cases hplus
      · exact (hread cs).mpr h
    · exact (hread ds).mpr h

end Text

namespace Query

open Text (IsWord)

section Given

variable {α : Type} (Reads : String → α → Prop) (default : α)

/-- What a parameter gives: the default if it is missing or empty, otherwise what it reads as. -/
inductive Given : Option String → α → Prop where
  | missing : Given none default
  | empty : Given (some "") default
  | read {s : String} {a : α} : s ≠ "" → Reads s a → Given (some s) a

/-- Whether a parameter is there but reads as nothing. -/
def Unreadable (text : Option String) : Prop :=
  ∃ s, text = some s ∧ s ≠ "" ∧ ∀ a, ¬Reads s a

end Given

/-- What a number gives: what it reads as, if this is within bounds, and otherwise the default. -/
inductive Bounded (low high default : Nat) (text : Option String) : Nat → Prop where
  | read {s : String} {n : Nat} : text = some s → IsWord s n → low ≤ n → n ≤ high →
      Bounded low high default text n
  | other : (∀ s n, text = some s → IsWord s n → ¬(low ≤ n ∧ n ≤ high)) →
      Bounded low high default text default

/-- Twenty-four hours before an instant. A leap second is taken for the first second after it. -/
def dayBefore (now : Instant) : Instant :=
  if now.nanos < 1000000000 then ⟨now.second - 24 * 3600, now.nanos⟩
  else ⟨now.second + 1 - 24 * 3600, now.nanos - 1000000000⟩

/-- The order of instants: by the second, and in a second by the nanosecond. -/
def Before (t u : Instant) : Prop :=
  t.second < u.second ∨ t.second = u.second ∧ t.nanos < u.nanos

instance (t u : Instant) : Decidable (Before t u) :=
  inferInstanceAs (Decidable (_ ∨ _))

/-- The nanoseconds from one instant to another. A leap second at one end is a second of its own if
that end has the earlier time of day. -/
def elapsed (start stop : Instant) : Int :=
  let startLeap : Int :=
    if 1000000000 ≤ start.nanos ∧ start.second % 86400 < stop.second % 86400 then 1 else 0
  let stopLeap : Int :=
    if 1000000000 ≤ stop.nanos ∧ stop.second % 86400 < start.second % 86400 then 1 else 0
  (stop.second - start.second + startLeap - stopLeap) * 1000000000 + stop.nanos - start.nanos

/-- Why a query is refused at the time `now`, by its times and its user. -/
inductive Refused (now : Instant) (start? stop? user? : Option String) : Prop where
  | start : Unreadable IsStrictTime start? → Refused now start? stop? user?
  | stop : Unreadable IsStrictTime stop? → Refused now start? stop? user?
  | user : Unreadable IsWord user? → Refused now start? stop? user?
  | order {start stop : Instant} :
      Given IsStrictTime (dayBefore now) start? start → Given IsStrictTime now stop? stop →
      Before stop start → Refused now start? stop? user?
  | span {start stop : Instant} :
      Given IsStrictTime (dayBefore now) start? start → Given IsStrictTime now stop? stop →
      Given IsWord 0 user? 0 → 365 * 24 * 3600 * 1000000000 < elapsed start stop →
      Refused now start? stop? user?

/-- What the parameters ask for at the time `now`. -/
structure Asked (now : Instant) (p : Parameters) (r : Resolved) : Prop where
  start : Given IsStrictTime (dayBefore now) p.start r.filter.start
  stop : Given IsStrictTime now p.stop r.filter.stop
  user : Given IsWord 0 p.user r.filter.userId
  limit : Bounded 1 500 100 p.limit r.filter.limit
  page : Bounded 1 (2 ^ 64 - 1) 1 p.page r.page
  offset : r.filter.offset = min ((r.page - 1) * r.filter.limit) (2 ^ 64 - 1)

lemma dayBefore_eq (now : Instant) : dayBefore now = now.minusSeconds defaultWindow := by
  have hlimit : Instant.nanosPerSecond = 1000000000 := rfl
  have hwindow : ((defaultWindow : Nat) : Int) = 24 * 3600 := rfl
  rw [Instant.minusSeconds, Instant.isLeap, hlimit, hwindow, dayBefore]
  by_cases hleap : now.nanos < 1000000000
  · rw [if_pos hleap, decide_eq_false (by omega), if_neg Bool.false_ne_true]
  · rw [if_neg hleap, decide_eq_true (by omega), if_pos rfl]

lemma not_le_iff {t u : Instant} : ¬t ≤ u ↔ Before u t := by
  rw [Instant.le_iff, Before]
  omega

lemma elapsed_eq (start stop : Instant) : elapsed start stop = stop.since start := by
  have hlimit : Instant.nanosPerSecond = 1000000000 := rfl
  have hday : Instant.secondsPerDay = 86400 := rfl
  simp only [Instant.since, Instant.secondOfDay, Instant.isLeap, hlimit, hday, elapsed,
    decide_eq_true_eq, Nat.cast_ofNat]
  split_ifs <;> omega

/-- Where no leap second is at either end, a window is too long just if it ends later than 365 days
after its start. -/
lemma too_long_iff {start stop : Instant} (hstart : start.nanos < 1000000000)
    (hstop : stop.nanos < 1000000000) : 365 * 24 * 3600 * 1000000000 < elapsed start stop ↔
      Before ⟨start.second + 365 * 24 * 3600, start.nanos⟩ stop := by
  rw [Before, elapsed, if_neg (by omega), if_neg (by omega)]
  dsimp only
  omega

section Readers

variable {α : Type} {Reads : String → α → Prop} {default a b : α} {text : Option String}

/-- How a time and a user are read. -/
def parameter (read : String → Option α) (message : String → String) (default : α)
    (text : Option String) : Except Failure α :=
  match text with
  | none => .ok default
  | some s =>
    if s.isEmpty then .ok default
    else match read s with
      | some a => .ok a
      | none => .error (.validation (message s))

variable {read : String → Option α} {message : String → String}

lemma parameter_eq_ok (hread : ∀ s a, read s = some a ↔ Reads s a) :
    parameter read message default text = .ok a ↔ Given Reads default text a := by
  unfold parameter
  constructor
  · intro h
    split at h
    · cases h
      exact .missing
    · next s =>
      split at h
      · next hempty =>
        cases h
        rw [String.isEmpty_iff.mp hempty]
        exact .empty
      · next hsome =>
        split at h
        · next b hb =>
          cases h
          exact .read (fun hempty => hsome (String.isEmpty_iff.mpr hempty)) ((hread s _).mp hb)
        · cases h
  · rintro (_ | _ | ⟨hsome, h⟩)
    · rfl
    · rfl
    · dsimp only
      rw [if_neg fun hempty => hsome (String.isEmpty_iff.mp hempty), (hread _ _).mpr h]

lemma parameter_eq_error {f : Failure} (h : parameter read message default text = .error f) :
    ∃ s, text = some s ∧ f = .validation (message s) := by
  unfold parameter at h
  split at h
  · cases h
  · next s =>
    split at h
    · cases h
    · split at h
      · cases h
      · cases h
        exact ⟨s, rfl, rfl⟩

lemma time_eq (text : Option String) (name : String) (default : Instant) :
    time text name default =
      parameter Instant.strict? (fun s => "invalid '" ++ name ++ "' time: " ++ s) default text := by
  unfold time parameter
  cases text with
  | none => rfl
  | some s => cases hread : Instant.strict? s <;> simp [hread]

lemma user_eq (text : Option String) :
    user text = parameter Text.word? (fun s => "invalid 'uid': " ++ s) 0 text := by
  unfold user parameter
  cases text with
  | none => rfl
  | some s => cases hread : Text.word? s <;> simp [hread]

/-- A parameter gives one value at most. -/
lemma Given.unique (hread : ∀ s a, read s = some a ↔ Reads s a) (ha : Given Reads default text a)
    (hb : Given Reads default text b) : a = b := by
  cases ha with
  | missing =>
    cases hb
    rfl
  | empty =>
    cases hb with
    | empty => rfl
    | read hsome _ => exact (hsome rfl).elim
  | read hsome ha =>
    cases hb with
    | empty => exact (hsome rfl).elim
    | read _ hb => exact Option.some.inj (((hread _ _).mpr ha).symm.trans ((hread _ _).mpr hb))

lemma given_none (h : Given Reads default none a) : a = default := by
  cases h
  rfl

/-- A parameter that can be read gives a value. -/
lemma given_of_readable (default : α) (h : ¬Unreadable Reads text) :
    ∃ a, Given Reads default text a := by
  cases text with
  | none => exact ⟨default, .missing⟩
  | some s =>
    by_cases hempty : s = ""
    · subst hempty
      exact ⟨default, .empty⟩
    · by_contra hnone
      exact h ⟨s, rfl, hempty, fun a ha => hnone ⟨a, .read hempty ha⟩⟩

lemma Given.readable (h : Given Reads default text a) : ¬Unreadable Reads text := by
  rintro ⟨s, rfl, hsome, hnone⟩
  cases h with
  | empty => exact hsome rfl
  | read _ hreads => exact hnone _ hreads

end Readers

section Window

variable {p : Parameters} {now : Instant}

section Bind

variable {ε α β : Type} {x : Except ε α} {next : α → Except ε β}

lemma bind_eq_ok {b : β} : (x >>= next) = .ok b ↔ ∃ a, x = .ok a ∧ next a = .ok b := by
  cases x <;> simp [bind, Except.bind]

lemma bind_eq_error {e : ε} (h : (x >>= next) = .error e) :
    x = .error e ∨ ∃ a, next a = .error e := by
  cases x with
  | error e' =>
    cases h
    exact .inl rfl
  | ok a => exact .inr ⟨a, h⟩

end Bind

/-- What the limit and the page add to a window. -/
def answer (p : Parameters) (start stop : Instant) (userId : Nat) : Resolved :=
  let limit := bounded p.limit 1 maxLimit defaultLimit
  let page := bounded p.page 1 (Word.limit64 - 1) 1
  ⟨⟨start, stop, userId, limit, offset page limit⟩, page⟩

lemma strict_reads (s : String) (t : Instant) : Instant.strict? s = some t ↔ IsStrictTime s t :=
  Instant.strict_eq_some

lemma word_reads (s : String) (n : Nat) : Text.word? s = some n ↔ IsWord s n :=
  Text.word_eq_some

lemma resolve_eq_ok {r : Resolved} : resolve p now = .ok r ↔
    ∃ start, Given IsStrictTime (dayBefore now) p.start start ∧
    ∃ stop, Given IsStrictTime now p.stop stop ∧ ∃ userId, Given IsWord 0 p.user userId ∧
      ¬Before stop start ∧ ¬(userId = 0 ∧ 365 * 24 * 3600 * 1000000000 < elapsed start stop) ∧
      answer p start stop userId = r := by
  have hmost : maxSpan = 365 * 24 * 3600 * 1000000000 := rfl
  unfold resolve
  simp only [bind_eq_ok, time_eq, user_eq, parameter_eq_ok strict_reads,
    parameter_eq_ok word_reads, not_le_iff, ← dayBefore_eq, ← elapsed_eq, hmost]
  refine exists_congr fun start => and_congr_right fun _ => exists_congr fun stop =>
    and_congr_right fun _ => exists_congr fun userId => and_congr_right fun _ => ?_
  split_ifs with horder hspan
  · exact iff_of_false nofun fun hanswer => hanswer.1 horder
  · exact iff_of_false nofun fun hanswer => hanswer.2.1 hspan
  · rw [Except.ok.injEq, and_iff_right horder, and_iff_right hspan]
    rfl

/-- Whatever is wrong is told as an invalid parameter. -/
lemma resolve_eq_error {f : Failure} (h : resolve p now = .error f) :
    ∃ message, f = .validation message := by
  have hparameter : ∀ {α : Type} {read : String → Option α} {message : String → String}
      {default : α} {text : Option String}, parameter read message default text = .error f →
      ∃ message, f = .validation message := by
    intro α read message default text h
    obtain ⟨s, -, hf⟩ := parameter_eq_error h
    exact ⟨_, hf⟩
  unfold resolve at h
  rw [time_eq, time_eq, user_eq] at h
  rcases bind_eq_error h with hstart | ⟨start, h⟩
  · exact hparameter hstart
  rcases bind_eq_error h with hstop | ⟨stop, h⟩
  · exact hparameter hstop
  rcases bind_eq_error h with huser | ⟨userId, h⟩
  · exact hparameter huser
  split_ifs at h with horder hspan
  · cases h
    exact ⟨_, rfl⟩
  · cases h
    exact ⟨_, rfl⟩

lemma bounded_reads (text : Option String) (low high default : Nat) :
    Bounded low high default text (bounded text low high default) := by
  have hother : ∀ {n : Nat}, text.bind Text.word? = some n → ¬(low ≤ n ∧ n ≤ high) →
      Bounded low high default text default := by
    intro n hread hout
    refine .other fun s m hs hm => ?_
    rw [hs, Option.bind_some, Text.word_eq_some.mpr hm, Option.some.injEq] at hread
    rwa [hread]
  unfold bounded
  split
  · next n hread =>
    split_ifs with hwithin
    · obtain ⟨s, hs, hn⟩ := Option.bind_eq_some_iff.mp hread
      exact .read hs (Text.word_eq_some.mp hn) hwithin.1 hwithin.2
    · exact hother hread hwithin
  · next hread =>
    refine .other fun s n hs hn => ?_
    rw [hs, Option.bind_some, Text.word_eq_some.mpr hn] at hread
    cases hread

lemma asked_answer {start stop : Instant} {userId : Nat}
    (hstart : Given IsStrictTime (dayBefore now) p.start start)
    (hstop : Given IsStrictTime now p.stop stop) (huser : Given IsWord 0 p.user userId) :
    Asked now p (answer p start stop userId) where
  start := hstart
  stop := hstop
  user := huser
  limit := bounded_reads p.limit 1 maxLimit defaultLimit
  page := bounded_reads p.page 1 (2 ^ 64 - 1) 1
  offset := rfl

/-- A query is answered unless it is refused. -/
lemma answered_of_not_refused (h : ¬Refused now p.start p.stop p.user) :
    ∃ r, resolve p now = .ok r ∧ Asked now p r ∧ ¬Before r.filter.stop r.filter.start := by
  obtain ⟨start, hstart⟩ := given_of_readable (dayBefore now)
    fun hbad => h (.start hbad)
  obtain ⟨stop, hstop⟩ := given_of_readable now fun hbad => h (.stop hbad)
  obtain ⟨userId, huser⟩ := given_of_readable 0 fun hbad => h (.user hbad)
  have horder : ¬Before stop start := fun hturned => h (.order hstart hstop hturned)
  have hspan : ¬(userId = 0 ∧ 365 * 24 * 3600 * 1000000000 < elapsed start stop) := by
    rintro ⟨rfl, hlong⟩
    exact h (.span hstart hstop huser hlong)
  exact ⟨_, resolve_eq_ok.mpr ⟨start, hstart, stop, hstop, userId, huser, horder, hspan, rfl⟩,
    asked_answer hstart hstop huser, horder⟩

lemma not_refused_of_answered {r : Resolved} (h : resolve p now = .ok r) :
    ¬Refused now p.start p.stop p.user := by
  obtain ⟨start, hstart, stop, hstop, userId, huser, horder, hspan, -⟩ := resolve_eq_ok.mp h
  rintro (hbad | hbad | hbad | ⟨hstart', hstop', hturned⟩ | ⟨hstart', hstop', huser', hlong⟩)
  · exact hstart.readable hbad
  · exact hstop.readable hbad
  · exact huser.readable hbad
  · rw [hstart'.unique strict_reads hstart, hstop'.unique strict_reads hstop] at hturned
    exact horder hturned
  · rw [hstart'.unique strict_reads hstart, hstop'.unique strict_reads hstop] at hlong
    exact hspan ⟨huser.unique word_reads huser', hlong⟩

lemma refused_iff : (∃ message, resolve p now = .error (.validation message)) ↔
    Refused now p.start p.stop p.user := by
  constructor
  · rintro ⟨message, herror⟩
    by_contra h
    obtain ⟨r, hr, -⟩ := answered_of_not_refused h
    rw [hr] at herror
    cases herror
  · intro h
    cases hresolve : resolve p now with
    | error f =>
      obtain ⟨message, rfl⟩ := resolve_eq_error hresolve
      exact ⟨message, rfl⟩
    | ok r => exact (not_refused_of_answered hresolve h).elim

lemma Given.inRange {default t : Instant} {text : Option String}
    (h : Given IsStrictTime default text t)
    (hdefault : default.inRange = true) : t.inRange = true := by
  cases h with
  | missing | empty => exact hdefault
  | read _ hreads => exact hreads.inRange

lemma Given.small {n : Nat} {text : Option String} (h : Given IsWord 0 text n) :
    n < 2 ^ 64 := by
  cases h with
  | missing | empty => decide
  | read _ hreads =>
    obtain ⟨ds, -, -, -, -, hlt⟩ := hreads
    exact hlt

lemma bounded_none {low high default n : Nat} (h : Bounded low high default none n) :
    n = default := by
  cases h with
  | read hnone => cases hnone
  | other => rfl

lemma Bounded.within {low high default n : Nat} {text : Option String}
    (h : Bounded low high default text n) (hlow : low ≤ default) (hhigh : default ≤ high) :
    low ≤ n ∧ n ≤ high := by
  cases h with
  | read _ _ hn hn' => exact ⟨hn, hn'⟩
  | other _ => exact ⟨hlow, hhigh⟩

/-- As many pages as it takes, and none to spare. -/
lemma pages_within (l : Http.Listing) (h : 1 ≤ l.perPage) :
    l.total ≤ l.pages * l.perPage ∧ l.pages * l.perPage < l.total + l.perPage := by
  have hdivided := Nat.div_add_mod' (l.total + l.perPage - 1) l.perPage
  have hrest := Nat.mod_lt (l.total + l.perPage - 1) (Nat.lt_of_succ_le h)
  unfold Http.Listing.pages
  omega

end Window

/-! ### Queries in full -/

/-- Queries are refused for unreadable times and users, for windows that are turned round, and for
windows of more than 365 days for all users; the limit and the page never matter. Every other query
is answered with what it asks for, all in range: within the calendar, at least one entry on a page,
a page that there can be, and no more entries before it than 64 bits count. -/
theorem resolve_exact (p : Parameters) {now : Instant} (hnow : now.inRange = true)
    (hback : (dayBefore now).inRange = true) :
    ((∃ message, resolve p now = .error (.validation message)) ↔
      Refused now p.start p.stop p.user) ∧
    (∀ start stop : Instant, stop.since start = elapsed start stop ∧
      (start.nanos < 1000000000 → stop.nanos < 1000000000 →
        (365 * 24 * 3600 * 1000000000 < elapsed start stop ↔
          Before ⟨start.second + 365 * 24 * 3600, start.nanos⟩ stop))) ∧
    (¬Refused now p.start p.stop p.user → ∃ r, resolve p now = .ok r ∧ Asked now p r ∧
      ¬Before r.filter.stop r.filter.start ∧
      (r.filter.start.inRange = true ∧ r.filter.stop.inRange = true) ∧
      r.filter.userId < 2 ^ 64 ∧
      (1 ≤ r.filter.limit ∧ r.filter.limit ≤ 500) ∧ (1 ≤ r.page ∧ r.page < 2 ^ 64) ∧
      r.filter.offset < 2 ^ 64 ∧
      ∀ total entries, let l : Http.Listing := ⟨total, r.page, r.filter.limit, entries⟩
        total ≤ l.pages * r.filter.limit ∧ l.pages * r.filter.limit < total + r.filter.limit) := by
  refine ⟨refused_iff, fun start stop => ⟨(elapsed_eq start stop).symm, too_long_iff⟩, fun h => ?_⟩
  obtain ⟨r, hresolve, hasked, horder⟩ := answered_of_not_refused h
  have hlimit := hasked.limit.within (by decide) (by decide)
  have hpage := hasked.page.within (by decide) (by decide)
  have hoffset : r.filter.offset < 2 ^ 64 := by
    rw [hasked.offset]
    exact (Nat.min_le_right _ _).trans_lt (by decide)
  exact ⟨r, hresolve, hasked, horder, ⟨hasked.start.inRange hback, hasked.stop.inRange hnow⟩,
    hasked.user.small, hlimit, ⟨hpage.1, Nat.lt_of_le_pred (by decide) hpage.2⟩, hoffset,
    fun total entries => pages_within ⟨total, r.page, r.filter.limit, entries⟩ hlimit.1⟩

/-- A query without parameters that is made in a leap second: the second after it is the one that
the day before is counted from. -/
theorem default_window_from_leap_second :
    let now : Instant := ⟨1483228799, 1500000000⟩
    now.inRange = true ∧ (dayBefore now).inRange = true ∧ ¬Refused now none none none ∧
      resolve {} now = .ok ⟨⟨⟨1483142400, 500000000⟩, now, 0, 100, 0⟩, 1⟩ := by
  intro now
  have hnow : now.inRange = true := by decide +kernel
  have hday : dayBefore now = ⟨1483142400, 500000000⟩ := by decide +kernel
  have hback : (dayBefore now).inRange = true := by decide +kernel
  obtain ⟨-, -, hanswered⟩ := resolve_exact {} hnow hback
  have hnot : ¬Refused now none none none := by
    rintro (⟨s, hs, -⟩ | ⟨s, hs, -⟩ | ⟨s, hs, -⟩ | ⟨⟨⟩, ⟨⟩, hturned⟩ | ⟨⟨⟩, ⟨⟩, -, hlong⟩)
    · cases hs
    · cases hs
    · cases hs
    · exact absurd hturned (by decide)
    · exact absurd hlong (by decide)
  obtain ⟨r, hresolve, hasked, -⟩ := hanswered hnot
  rcases r with ⟨⟨start, stop, userId, limit, offset⟩, page⟩
  obtain rfl : start = dayBefore now := given_none hasked.start
  obtain rfl : stop = now := given_none hasked.stop
  obtain rfl : userId = 0 := given_none hasked.user
  obtain rfl : limit = 100 := bounded_none hasked.limit
  obtain rfl : page = 1 := bounded_none hasked.page
  obtain rfl : offset = 0 := hasked.offset.trans (Nat.zero_min _)
  rw [hday] at hresolve
  exact ⟨hnow, hback, hnot, hresolve⟩

/-- From one leap second to another, 365 days later, is the longest window for all users. -/
example :
    let p : Parameters :=
      { start := some "2016-12-31T23:59:60Z", stop := some "2018-01-01t08:59:60.0+09:00",
        user := some "+0", limit := some "7" }
    resolve p ⟨1514764800, 0⟩ =
      .ok ⟨⟨⟨1483228799, 1000000000⟩, ⟨1514764799, 1000000000⟩, 0, 7, 0⟩, 1⟩ := by
  decide +kernel

/-- One nanosecond more is too long. -/
example :
    resolve { start := some "2016-12-31T23:59:60Z", stop := some "2017-12-31T23:59:60.000000001Z" }
      ⟨0, 0⟩ = .error (.validation "range must not exceed 365 days without 'uid'") := by
  decide +kernel

end Query
end AuditTrail
