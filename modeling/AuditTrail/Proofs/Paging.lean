import AuditTrail.Http.Routes
import AuditTrail.Proofs.Numerals
import AuditTrail.Proofs.SinkAgreement
import Mathlib.Algebra.Order.Floor.Div
import Mathlib.Data.List.Sort

/-!
# The pages of a listing are a partition

The entries that a query asks for are sorted once and for all, so the pages of one window are
consecutive blocks of one list. Together they hold every entry that is asked for as often as it is
stored, the newest first and entries of one instant in their stored order.
-/

namespace AuditTrail

open Time (Instant)

namespace Time.Instant

variable {t u v : Instant}

lemma le_iff : t ≤ u ↔ t.second < u.second ∨ t.second = u.second ∧ t.nanos ≤ u.nanos := by
  change t.le u = true ↔ _
  simp [le]

lemma le_total (t u : Instant) : t ≤ u ∨ u ≤ t := by
  rw [le_iff, le_iff]
  omega

lemma le_trans (h : t ≤ u) (h' : u ≤ v) : t ≤ v := by
  rw [le_iff] at *
  omega

lemma le_refl (t : Instant) : t ≤ t := le_iff.mpr (.inr ⟨rfl, Nat.le_refl _⟩)

end Time.Instant

/-- A filter accepts what was received from its one end to the other, of its user or of any. -/
lemma Filter.accepts_iff {f : Filter} {e : Entry} : f.accepts e = true ↔
    f.start ≤ e.receivedAt ∧ e.receivedAt ≤ f.stop ∧ (f.userId = 0 ∨ e.userId = f.userId) := by
  simp only [accepts, Bool.and_eq_true, Bool.or_eq_true, decide_eq_true_eq, beq_iff_eq, and_assoc]

lemma Filter.filter_accepts (f : Filter) (es : List Entry) : es.filter f.accepts =
    es.filter fun e => f.start ≤ e.receivedAt ∧ e.receivedAt ≤ f.stop ∧
      (f.userId = 0 ∨ e.userId = f.userId) := by
  refine List.filter_congr fun e _ => Bool.eq_iff_iff.mpr ?_
  rw [accepts_iff, decide_eq_true_eq]

namespace Page

/-- Whether the entry is at least as new. -/
def newer (a b : Entry) : Bool :=
  b.receivedAt ≤ a.receivedAt

lemma newer_trans (a b c : Entry) (h : newer a b = true) (h' : newer b c = true) :
    newer a c = true := by
  simp only [newer, decide_eq_true_eq] at *
  exact Instant.le_trans h' h

lemma newer_total (a b : Entry) : (newer a b || newer b a) = true := by
  simp only [newer, Bool.or_eq_true, decide_eq_true_eq]
  exact Instant.le_total _ _

variable (es : List Entry)

lemma ordered_perm : (ordered es).Perm es :=
  List.mergeSort_perm es _

/-- The newest entries come first. -/
lemma ordered_descends : (ordered es).Pairwise fun a b => b.receivedAt ≤ a.receivedAt := by
  have hsorted := List.pairwise_mergeSort newer_trans newer_total es
  exact hsorted.imp fun h => of_decide_eq_true h

/-- Entries of one instant stay in their order. -/
lemma ordered_stable (t : Instant) :
    (ordered es).filter (·.receivedAt = t) = es.filter (·.receivedAt = t) := by
  have hties : (es.filter (·.receivedAt = t)).Pairwise fun a b => newer a b = true := by
    refine List.pairwise_of_forall_mem_list fun a ha b hb => ?_
    have ha := of_decide_eq_true (List.mem_filter.mp ha).2
    have hb := of_decide_eq_true (List.mem_filter.mp hb).2
    simp only [newer, ha, hb, decide_eq_true_eq]
    exact Instant.le_refl t
  have hsub : (es.filter (·.receivedAt = t)).Sublist (ordered es) :=
    List.sublist_mergeSort newer_trans newer_total hties List.filter_sublist
  have hfiltered := hsub.filter (·.receivedAt = t)
  rw [List.filter_filter] at hfiltered
  simp only [Bool.and_self] at hfiltered
  exact (hfiltered.eq_of_length ((ordered_perm es).filter _).length_eq.symm).symm

/-- Pages that hold the wanted entries, each as often as it is wanted, the newest first and entries
of one instant in the order in which they are given. All pages but the last are full, the last is
not empty, and there is nothing behind it. -/
structure Partition (wanted : List Entry) (limit : Nat) (data : Nat → List Entry) : Prop where
  perm : ((List.range (wanted.length ⌈/⌉ limit)).flatMap fun i => data (i + 1)).Perm wanted
  descends : ((List.range (wanted.length ⌈/⌉ limit)).flatMap fun i => data (i + 1)).Pairwise
    fun a b => b.receivedAt ≤ a.receivedAt
  stable : ∀ t, ((List.range (wanted.length ⌈/⌉ limit)).flatMap fun i => data (i + 1)).filter
    (·.receivedAt = t) = wanted.filter (·.receivedAt = t)
  full : ∀ k, 1 ≤ k → k < wanted.length ⌈/⌉ limit → (data k).length = limit
  last : 0 < wanted.length ⌈/⌉ limit →
    1 ≤ (data (wanted.length ⌈/⌉ limit)).length ∧ (data (wanted.length ⌈/⌉ limit)).length ≤ limit
  past : ∀ k, wanted.length ⌈/⌉ limit < k → data k = []

/-- The blocks of a list, one after the other. -/
lemma blocks_eq_take {α : Type} (l : List α) (size count : Nat) :
    (List.range count).flatMap (fun i => (l.drop (i * size)).take size) =
      l.take (count * size) := by
  induction count with
  | zero => simp
  | succ count ih =>
    rw [List.range_succ, List.flatMap_append, ih, Nat.succ_mul, List.take_add]
    simp

/-- The entries on the page with the number `k`. -/
def block (wanted : List Entry) (limit k : Nat) : List Entry :=
  ((ordered wanted).drop (Query.offset k limit)).take limit

section Block

variable {wanted : List Entry} {limit k : Nat}

/-- Before every page but those past the last one there are fewer entries than there are at all. -/
lemma lt_of_lt_ceilDiv (hlimit : 1 ≤ limit) (hk : k < wanted.length ⌈/⌉ limit) :
    k * limit < wanted.length := by
  rw [← not_le, ceilDiv_le_iff_le_mul (by omega)] at hk
  rw [Nat.mul_comm]
  omega

/-- Counting in 64 bits is no hindrance on the pages that there are. -/
lemma offset_of_page (hlength : wanted.length < Word.limit64) (hk : k < wanted.length ⌈/⌉ limit)
    (hlimit : 1 ≤ limit) : Query.offset (k + 1) limit = k * limit := by
  have hlt := lt_of_lt_ceilDiv hlimit hk
  rw [Query.offset, Nat.add_sub_cancel]
  omega

lemma blocks_eq_ordered (hlength : wanted.length < Word.limit64) (hlimit : 1 ≤ limit) :
    (List.range (wanted.length ⌈/⌉ limit)).flatMap (fun i => block wanted limit (i + 1)) =
      ordered wanted := by
  have hblocks : ∀ i ∈ List.range (wanted.length ⌈/⌉ limit),
      block wanted limit (i + 1) = ((ordered wanted).drop (i * limit)).take limit := by
    intro i hi
    rw [block, offset_of_page hlength (List.mem_range.mp hi) hlimit]
  have hcover : (ordered wanted).length ≤ wanted.length ⌈/⌉ limit * limit := by
    rw [(ordered_perm wanted).length_eq, Nat.mul_comm]
    exact (ceilDiv_le_iff_le_mul (by omega)).mp (Nat.le_refl _)
  rw [List.flatMap_congr hblocks, blocks_eq_take, List.take_of_length_le hcover]

lemma length_block (hlength : wanted.length < Word.limit64) (hlimit : 1 ≤ limit)
    (hk : k < wanted.length ⌈/⌉ limit) :
    (block wanted limit (k + 1)).length = min limit (wanted.length - k * limit) := by
  rw [block, offset_of_page hlength hk hlimit, List.length_take, List.length_drop,
    (ordered_perm wanted).length_eq]

/-- Past the last page the offset is past the last entry, even where it is cut to 64 bits. -/
lemma block_past_end (hlength : wanted.length < Word.limit64) (hlimit : 1 ≤ limit)
    (hk : wanted.length ⌈/⌉ limit < k) : block wanted limit k = [] := by
  have hle : wanted.length ≤ (k - 1) * limit := by
    rw [Nat.mul_comm, ← ceilDiv_le_iff_le_mul (by omega)]
    omega
  have hoffset : (ordered wanted).length ≤ Query.offset k limit := by
    rw [(ordered_perm wanted).length_eq, Query.offset]
    omega
  rw [block, List.drop_of_length_le hoffset, List.take_nil]

/-- The blocks of the ordered entries are such pages. -/
lemma partition_block (hlength : wanted.length < Word.limit64) (hlimit : 1 ≤ limit) :
    Partition wanted limit (block wanted limit) where
  perm := by
    rw [blocks_eq_ordered hlength hlimit]
    exact ordered_perm wanted
  descends := by
    rw [blocks_eq_ordered hlength hlimit]
    exact ordered_descends wanted
  stable t := by
    rw [blocks_eq_ordered hlength hlimit]
    exact ordered_stable wanted t
  full k hone hk := by
    obtain ⟨k, rfl⟩ := Nat.exists_eq_add_of_le' hone
    have hnext : (k + 1) * limit < wanted.length := lt_of_lt_ceilDiv hlimit hk
    rw [length_block hlength hlimit (by omega)]
    rw [Nat.succ_mul] at hnext
    omega
  last hsome := by
    obtain ⟨k, hk⟩ := Nat.exists_eq_add_of_lt hsome
    rw [Nat.zero_add] at hk
    have hstart : k * limit < wanted.length := lt_of_lt_ceilDiv hlimit (by omega)
    rw [hk, length_block hlength hlimit (by omega)]
    omega
  past _ hk := block_past_end hlength hlimit hk

end Block

end Page

namespace Text

/-- A number is read where it has been written in digits. -/
lemma word_toString {n : Nat} (h : n < Word.limit64) : word? (toString n) = some n := by
  have hchars : (toString n).toList = Nat.toDigits 10 n := by simp [toString, Nat.repr]
  have hdigits : (Nat.toDigits 10 n).all Char.isDigit = true := by
    rw [List.all_eq_true]
    exact fun c hc => isDigit_toDigits hc
  have hne : Nat.toDigits 10 n ≠ [] := Nat.toDigits_ne_nil
  have hread : digits? (Nat.toDigits 10 n) = some n := by
    simp [digits?, hne, hdigits, ofDigits_toDigits]
  unfold word? natBelow?
  rw [hchars]
  split
  · next cs heq =>
    rw [heq] at hdigits
    cases hdigits
  · simp [hread, h]

end Text

namespace Query

lemma bounded_of_word {text : Option String} {low high default n : Nat}
    (h : text.bind Text.word? = some n) (hlow : low ≤ n) (hhigh : n ≤ high) :
    bounded text low high default = n := by
  simp only [bounded, h, hlow, hhigh, and_self, if_true]

lemma bounded_within {low high default : Nat} (hlow : low ≤ default) (hhigh : default ≤ high)
    (text : Option String) :
    low ≤ bounded text low high default ∧ bounded text low high default ≤ high := by
  unfold bounded
  split
  · split
    · next hbounds => exact hbounds
    · exact ⟨hlow, hhigh⟩
  · exact ⟨hlow, hhigh⟩

variable {p : Parameters} {now : Instant} {r : Resolved}

/-- The window does not depend on the page. -/
lemma resolve_page (h : resolve p now = .ok r) (page : Option String) :
    let limit := bounded p.limit 1 maxLimit defaultLimit
    let number := bounded page 1 (Word.limit64 - 1) 1
    resolve { p with page } now =
      .ok ⟨{ r.filter with limit, offset := offset number limit }, number⟩ := by
  dsimp only
  simp only [resolve] at h ⊢
  cases hstart : time p.start "from" (now.minusSeconds defaultWindow) with
  | error f => simp [hstart, bind, Except.bind] at h
  | ok start =>
    cases hstop : time p.stop "to" now with
    | error f => simp [hstart, hstop, bind, Except.bind] at h
    | ok stop =>
      cases huser : user p.user with
      | error f => simp [hstart, hstop, huser, bind, Except.bind] at h
      | ok userId =>
        simp only [hstart, hstop, huser, bind, Except.bind] at h ⊢
        split at h
        · cases h
        · split at h
          · cases h
          · next hwindow hspan =>
            cases h
            rw [if_neg hwindow, if_neg hspan]

lemma limit_of_resolve (h : resolve p now = .ok r) :
    r.filter.limit = bounded p.limit 1 maxLimit defaultLimit := by
  have hsame := h.symm.trans (resolve_page h p.page)
  injection hsame with hr
  rw [hr]

end Query

/-! ### The listing -/

namespace Http

section Answers

variable {lookup : Lookup} {now : Instant} {p : Query.Parameters}

lemma listing_eq {r : Query.Resolved} {page : Page} {events : List Log.Event}
    (hresolve : Query.resolve p now = .ok r) (hlookup : lookup r.filter = .ok (page, events)) :
    listing lookup now p = .ok (⟨page.total, r.page, r.filter.limit, page.items⟩, events) := by
  simp only [listing, hresolve, bind, Except.bind, hlookup]
  rfl

/-- A query string with these parameters is answered with the text of the listing. -/
lemma list_eq {l : Listing} {events : List Log.Event} {query : String}
    (hlisting : listing lookup now p = .ok (l, events))
    (hquery : Query.Form.parameters query = .ok p) :
    list lookup now (some query) = (jsonResponse 200 (Utf8.encodeChars l.chars), events) := by
  simp only [list, Option.getD_some, hquery, hlisting]

lemma pages_eq (l : Listing) : l.pages = l.total ⌈/⌉ l.perPage := by
  rw [Listing.pages, Nat.ceilDiv_eq_add_pred_div]

end Answers

/-- A store whose entries can be read answers every filter with a page of them. -/
lemma query_eq {store : Sink.Store} {stored : List Entry} (h : store.entries = .ok stored) :
    ∃ events, ∀ f, store.query f = .ok (Page.select f stored, events) := by
  cases store with
  | memory m =>
    cases h
    exact ⟨[], fun _ => rfl⟩
  | file x =>
    cases htext : x.text with
    | error f => simp [Sink.Store.entries, htext, Except.map] at h
    | ok cs =>
      simp only [Sink.Store.entries, htext, Except.map, Except.ok.injEq] at h
      refine ⟨(Sink.File.malformedFrom 1 (Sink.File.lines cs)).map .lineSkipped, fun f => ?_⟩
      rw [Sink.Store.query, Sink.File.query, htext, ← h]
      rfl

/-- The pages of a listing are a partition of the entries that are asked for: those within the times
and of the user that the query gives, whatever they are stored in and however many go on a page.
Every page that 64 bits count can be asked for, and tells how many entries there are, and on how
many pages. -/
theorem pages_partition_the_wanted {store : Sink.Store} {stored : List Entry}
    {p : Query.Parameters} {now : Instant} {r : Query.Resolved}
    (hstored : store.entries = .ok stored) (hlength : stored.length < Word.limit64)
    (hresolve : Query.resolve p now = .ok r) :
    let wanted := stored.filter fun e => r.filter.start ≤ e.receivedAt ∧
      e.receivedAt ≤ r.filter.stop ∧ (r.filter.userId = 0 ∨ e.userId = r.filter.userId)
    let limit := r.filter.limit
    (1 ≤ limit ∧ limit ≤ Query.maxLimit) ∧
      (∀ n, p.limit.bind Text.word? = some n → 1 ≤ n → n ≤ Query.maxLimit → limit = n) ∧
      ∃ data events, Page.Partition wanted limit data ∧
        ∀ k, 1 ≤ k → k < Word.limit64 → Text.word? (toString k) = some k ∧
          ∀ number, Text.word? number = some k →
            let asked := { p with page := some number }
            let l : Listing := ⟨wanted.length, k, limit, data k⟩
            listing store.query now asked = .ok (l, events) ∧
              l.pages = wanted.length ⌈/⌉ limit ∧
              ∀ query, Query.Form.parameters query = .ok asked →
                list store.query now (some query) =
                  (jsonResponse 200 (Utf8.encodeChars l.chars), events) := by
  intro wanted limit
  have hselect : ∀ offset, Page.select { r.filter with limit, offset } stored =
      ⟨((Page.ordered wanted).drop offset).take limit, wanted.length⟩ := by
    intro offset
    rw [Page.select, Filter.filter_accepts]
    rfl
  obtain ⟨events, hquery⟩ := query_eq hstored
  have hfew : wanted.length < Word.limit64 := (List.length_filter_le _ _).trans_lt hlength
  have hlimit := Query.limit_of_resolve hresolve
  have hbounds : 1 ≤ limit ∧ limit ≤ Query.maxLimit := by
    rw [show limit = _ from hlimit]
    exact Query.bounded_within (by decide) (by decide) _
  refine ⟨hbounds, fun n hread hlow hhigh => hlimit.trans (Query.bounded_of_word hread hlow hhigh),
    Page.block wanted limit, events, Page.partition_block hfew hbounds.1,
    fun k hone hk => ⟨Text.word_toString hk, ?_⟩⟩
  intro number hnumber
  have hpage : Query.bounded (some number) 1 (Word.limit64 - 1) 1 = k :=
    Query.bounded_of_word hnumber hone (Nat.le_pred_of_lt hk)
  have hresolved := Query.resolve_page hresolve (some number)
  dsimp only at hresolved
  rw [hpage, ← hlimit] at hresolved
  have hlisting := listing_eq hresolved (hquery _)
  rw [hselect] at hlisting
  exact ⟨hlisting, pages_eq _, fun query hform => list_eq hlisting hform⟩

/-- A store with an old entry between two newer ones of one instant, at two entries on a page. -/
theorem three_entries_on_two_pages :
    let newer := Sink.Store.leapEntry
    let older := { newer with receivedAt := ⟨1483228799, 0⟩ }
    let store := Sink.Store.memory ⟨[[newer, older], [newer]], 2, 0⟩
    let window : Query.Parameters :=
      { start := some "2016-12-31T00:00:00Z", user := some "7", limit := some "2" }
    let now : Instant := ⟨1483228800, 0⟩
    ∃ data events, Page.Partition [newer, older, newer] 2 data ∧
      listing store.query now { window with page := some "2" } =
        .ok (⟨3, 2, 2, data 2⟩, events) := by
  intro newer older store window now
  have hstored : store.entries = .ok [newer, older, newer] := rfl
  have hresolve : Query.resolve window now =
      .ok ⟨⟨⟨1483142400, 0⟩, ⟨1483228800, 0⟩, 7, 2, 0⟩, 1⟩ := by decide +kernel
  obtain ⟨-, -, data, events, hpartition, hpages⟩ :=
    pages_partition_the_wanted hstored (by decide) hresolve
  have hlisting := ((hpages 2 (by decide) (by decide)).2 "2" (by decide +kernel)).1
  exact ⟨data, events, hpartition, hlisting⟩

end Http
end AuditTrail
