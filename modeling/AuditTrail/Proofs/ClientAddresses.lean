import AuditTrail.Net.Client
import Mathlib.Data.List.TakeWhile
import Mathlib.Tactic.Common

/-!
# The client of a request

The address that is recorded for a client comes from the first source that names one: the first hop
of `X-Forwarded-For`, then `X-Real-IP`, then the peer. But an `X-Forwarded-For` that names nobody
keeps `X-Real-IP` from being read.
-/

namespace AuditTrail

namespace Text

/-- Whether a text neither begins nor ends with a blank. -/
def IsTrim (cs : List Char) : Prop :=
  (∀ c ∈ cs.head?, isBlank c = false) ∧ ∀ c ∈ cs.getLast?, isBlank c = false

variable {cs before after item : List Char}

lemma dropBlank_append (hbefore : ∀ c ∈ before, isBlank c = true)
    (hcs : ∀ c ∈ cs.head?, isBlank c = false) : dropBlank (before ++ cs) = cs := by
  rw [dropBlank, List.dropWhile_append_of_pos hbefore]
  cases cs with
  | nil => rfl
  | cons c cs => rw [List.dropWhile_cons_of_neg (by simp [hcs c rfl])]

lemma dropBlank_all (h : ∀ c ∈ cs, isBlank c = true) : dropBlank cs = [] := by
  rw [← List.append_nil cs]
  exact dropBlank_append h nofun

lemma exists_dropBlank (cs : List Char) :
    (∀ c ∈ (dropBlank cs).head?, isBlank c = false) ∧
      ∃ before, cs = before ++ dropBlank cs ∧ ∀ c ∈ before, isBlank c = true := by
  refine ⟨fun c hc => ?_, cs.takeWhile isBlank, List.takeWhile_append_dropWhile.symm,
    fun _ => List.mem_takeWhile_imp⟩
  have hhead := List.head?_dropWhile_not isBlank cs
  rw [dropBlank] at hc
  simpa [Option.mem_def.mp hc] using hhead

lemma trim_padded (hitem : IsTrim item) (hblank : ∀ c ∈ before ++ after, isBlank c = true) :
    trim (before ++ item ++ after) = item := by
  obtain ⟨hbefore, hafter⟩ := List.forall_mem_append.mp hblank
  cases item with
  | nil =>
    rw [trim, List.append_nil, dropBlank_all hblank]
    rfl
  | cons first item =>
    have hhead : ∀ c ∈ (first :: item ++ after).head?, isBlank c = false := hitem.1
    have hlast : ∀ c ∈ (first :: item).reverse.head?, isBlank c = false := by
      rw [List.head?_reverse]
      exact hitem.2
    rw [trim, List.append_assoc, dropBlank_append hbefore hhead, List.reverse_append,
      dropBlank_append (by simpa using hafter) hlast, List.reverse_reverse]

/-- Trimming takes the blanks at both ends away, and nothing else. -/
lemma trim_eq_iff : trim cs = item ↔
    IsTrim item ∧ ∃ before after, cs = before ++ item ++ after ∧
      ∀ c ∈ before ++ after, isBlank c = true := by
  constructor
  · rintro rfl
    obtain ⟨hhead, before, hcs, hbefore⟩ := exists_dropBlank cs
    obtain ⟨hlast, after, hrest, hafter⟩ := exists_dropBlank (dropBlank cs).reverse
    have hsplit : dropBlank cs = trim cs ++ after.reverse := by
      rw [trim, ← List.reverse_append, ← hrest, List.reverse_reverse]
    refine ⟨⟨fun c hc => hhead c ?_, ?_⟩, before, after.reverse, ?_, ?_⟩
    · rw [hsplit, List.head?_append, Option.mem_def.mp hc]
      rfl
    · rw [trim, List.getLast?_reverse]
      exact hlast
    · rw [List.append_assoc, ← hsplit]
      exact hcs
    · simpa [or_imp, forall_and] using ⟨hbefore, hafter⟩
  · rintro ⟨hitem, before, after, rfl, hblank⟩
    exact trim_padded hitem hblank

end Text

namespace Net

open Http (Headers FieldValue)

/-- Whether `item` is what stands before the first comma of a text, without the blanks around
it. -/
def IsFirstItem (cs item : List Char) : Prop :=
  ∃ first rest, cs = first ++ rest ∧ ',' ∉ first ∧ (∀ c ∈ rest.head?, c = ',') ∧
    Text.IsTrim item ∧ ∃ before after, first = before ++ item ++ after ∧
      ∀ c ∈ before ++ after, Text.isBlank c = true

lemma firstItem_eq_iff {cs item : List Char} : firstItem cs = item ↔ IsFirstItem cs item := by
  rw [firstItem, Text.trim_eq_iff]
  constructor
  · rintro ⟨hitem, before, after, hfirst, hblank⟩
    refine ⟨_, _, List.takeWhile_append_dropWhile.symm, fun hmem => ?_, fun c hc => ?_,
      hitem, before, after, hfirst, hblank⟩
    · simpa using List.mem_takeWhile_imp hmem
    · have hhead := List.head?_dropWhile_not (· ≠ ',') cs
      rw [Option.mem_def.mp hc] at hhead
      simpa using hhead
  · rintro ⟨first, rest, rfl, hcomma, hrest, hitem, before, after, hfirst, hblank⟩
    have htake : (first ++ rest).takeWhile (· ≠ ',') = first := by
      rw [List.takeWhile_append_of_pos (by simpa using fun c hc => ne_of_mem_of_not_mem hc hcomma)]
      cases rest with
      | nil => simp
      | cons c rest => simp [hrest c rfl]
    rw [htake]
    exact ⟨hitem, before, after, hfirst, hblank⟩

/-- Whether `v` is the first value under a name. -/
def IsFirstValue (h : Headers) (name : String) (v : FieldValue) : Prop :=
  ∃ before key after, h = before ++ (key, v) :: after ∧ key.text = name ∧
    ∀ field ∈ before, field.1.text ≠ name

lemma first_eq_some_iff {h : Headers} {name : String} {v : FieldValue} :
    h.first? name = some v ↔ IsFirstValue h name v := by
  simp only [Headers.first?, Option.map_eq_some_iff, List.find?_eq_some_iff_append, IsFirstValue]
  constructor
  · rintro ⟨⟨key, v⟩, ⟨hkey, before, after, rfl, hbefore⟩, rfl⟩
    exact ⟨before, key, after, rfl, by simpa using hkey, by simpa using hbefore⟩
  · rintro ⟨before, key, after, rfl, hkey, hbefore⟩
    exact ⟨(key, v), ⟨by simpa using hkey, before, after, rfl, by simpa using hbefore⟩, rfl⟩

/-- Whether a value is a text of visible ASCII characters, blanks and tabs. -/
def IsText (v : FieldValue) (cs : List Char) : Prop :=
  (∀ b ∈ v.bytes, 0x20 ≤ b ∧ b < 0x7F ∨ b = 0x09) ∧ v.bytes.map Char.ofUInt8 = cs

lemma text_eq_some_iff {v : FieldValue} {cs : List Char} : v.text? = some cs ↔ IsText v cs := by
  simp only [FieldValue.text?, Option.ite_none_right_eq_some, Option.some.injEq, IsText,
    List.all_eq_true, Bool.or_eq_true, Bool.and_eq_true, decide_eq_true_eq, beq_iff_eq]

/-- Whether the header fields under a name name the client `s`: the first of them is a text whose
first item is `s` and not empty. -/
def Names (h : Headers) (name s : String) : Prop :=
  ∃ v cs item, IsFirstValue h name v ∧ IsText v cs ∧ IsFirstItem cs item ∧ item ≠ [] ∧
    s = String.ofList item

/-- The client that a value names. -/
def named? (v : FieldValue) : Option String :=
  v.text?.bind fun cs =>
    let item := firstItem cs
    if item.isEmpty then none else some (String.ofList item)

lemma named_eq_some_iff {v : FieldValue} {s : String} : named? v = some s ↔
    ∃ cs item, IsText v cs ∧ IsFirstItem cs item ∧ item ≠ [] ∧ s = String.ofList item := by
  simp only [named?, Option.bind_eq_some_iff, text_eq_some_iff]
  constructor
  · rintro ⟨cs, hcs, hitem⟩
    split at hitem
    · cases hitem
    · next hne =>
      exact ⟨cs, _, hcs, firstItem_eq_iff.mp rfl, by simpa using hne, (Option.some.inj hitem).symm⟩
  · rintro ⟨cs, item, hcs, hitem, hne, rfl⟩
    refine ⟨cs, hcs, ?_⟩
    rw [firstItem_eq_iff.mpr hitem, if_neg (by simpa using hne)]

lemma names_iff {h : Headers} {name s : String} :
    Names h name s ↔ (h.first? name).bind named? = some s := by
  simp only [Option.bind_eq_some_iff, named_eq_some_iff, first_eq_some_iff, Names]
  constructor
  · rintro ⟨v, cs, item, hv, hrest⟩
    exact ⟨v, hv, cs, item, hrest⟩
  · rintro ⟨v, hv, cs, item, hrest⟩
    exact ⟨v, cs, item, hv, hrest⟩

/-- The group of an address of version 6 that holds two octets of one of version 4. -/
def octetPair (a b : UInt8) : UInt16 :=
  UInt16.ofNat (256 * a.toNat + b.toNat)

lemma toNat_octetPair (a b : UInt8) : (octetPair a b).toNat = 256 * a.toNat + b.toNat := by
  have ha := a.toNat_lt
  have hb := b.toNat_lt
  have hsize : UInt16.size = 65536 := rfl
  exact UInt16.toNat_ofNat_of_lt (by omega)

lemma high_octetPair (a b : UInt8) : (octetPair a b >>> 8).toUInt8 = a := by
  have ha := a.toNat_lt
  have hb := b.toNat_lt
  apply UInt8.toNat.inj
  simp only [UInt16.toNat_toUInt8, UInt16.toNat_shiftRight, toNat_octetPair,
    Nat.shiftRight_eq_div_pow, UInt16.reduceToNat, Nat.reduceMod, Nat.reducePow]
  omega

lemma low_octetPair (a b : UInt8) : (octetPair a b).toUInt8 = b := by
  have hb := b.toNat_lt
  apply UInt8.toNat.inj
  rw [UInt16.toNat_toUInt8, toNat_octetPair]
  omega

lemma octetPair_high_low (g : UInt16) : octetPair (g >>> 8).toUInt8 g.toUInt8 = g := by
  have hg := g.toNat_lt
  apply UInt16.toNat.inj
  simp only [toNat_octetPair, UInt16.toNat_toUInt8, UInt16.toNat_shiftRight,
    Nat.shiftRight_eq_div_pow, UInt16.reduceToNat, Nat.reduceMod, Nat.reducePow]
  omega

/-- The address `::ffff:a.b.c.d`. -/
def V6.mapping (y : V4) : V6 :=
  ⟨#v[0, 0, 0, 0, 0, 0xFFFF, octetPair y.a y.b, octetPair y.c y.d]⟩

lemma V6.mapped_eq_some_iff {x : V6} {y : V4} : x.mapped? = some y ↔ x = V6.mapping y := by
  constructor
  · intro h
    unfold mapped? at h
    split at h
    · next g g' hgroups =>
      cases h
      obtain ⟨groups⟩ := x
      congr 1
      apply Vector.toList_inj.mp
      rw [hgroups]
      simp [octetPair_high_low]
    · cases h
  · rintro rfl
    simp [mapped?, mapping, high_octetPair, low_octetPair]

/-- An address and how it is recorded: one of version 6 that maps one of version 4 as this one, and
every other as it is. -/
inductive Address.Recorded : Address → Address → Prop where
  | v4 (y : V4) : Recorded (.v4 y) (.v4 y)
  | mapped (y : V4) : Recorded (.v6 (V6.mapping y)) (.v4 y)
  | v6 (x : V6) : (∀ y, x ≠ V6.mapping y) → Recorded (.v6 x) (.v6 x)

lemma Address.recorded_iff {a b : Address} : Recorded a b ↔ b = a.normalized := by
  constructor
  · intro h
    cases h with
    | v4 y => rfl
    | mapped y => rw [normalized, V6.mapped_eq_some_iff.mpr rfl]
    | v6 x hx =>
      have hnone : x.mapped? = none :=
        Option.eq_none_iff_forall_ne_some.mpr fun y hy => hx y (V6.mapped_eq_some_iff.mp hy)
      rw [normalized, hnone]
  · rintro rfl
    cases a with
    | v4 y => exact .v4 y
    | v6 x =>
      cases hmapped : x.mapped? with
      | some y =>
        obtain rfl := V6.mapped_eq_some_iff.mp hmapped
        rw [normalized, hmapped]
        exact .mapped y
      | none =>
        rw [normalized, hmapped]
        refine .v6 x fun y hy => ?_
        rw [V6.mapped_eq_some_iff.mpr hy] at hmapped
        cases hmapped

lemma V6.groupChars_ne_nil {gs : List UInt16} (h : gs ≠ []) : groupChars gs ≠ [] := by
  obtain ⟨g, gs, rfl⟩ := List.exists_cons_of_ne_nil h
  cases gs with
  | nil => simp [groupChars]
  | cons g' gs => simp [groupChars, List.intercalate]

lemma Address.render_ne_empty (a : Address) : a.render ≠ "" := by
  have hchars : a.chars ≠ [] := by
    cases a with
    | v4 y => simp [chars, V4.chars]
    | v6 x =>
      simp only [chars, V6.chars]
      split
      · exact List.cons_ne_nil _ _
      · split
        · refine V6.groupChars_ne_nil (List.ne_nil_of_length_pos ?_)
          simp
        · simp
  intro h
  exact hchars (String.ofList_eq_empty_iff.mp h)

/-! ### The order of the sources -/

def forwardedFor : String := "x-forwarded-for"

def realIp : String := "x-real-ip"

/-- The client that the sources give in their order: the first hop, else the client that the proxy
names, else the peer, else the empty text. -/
inductive ByPriority (h : Headers) (peer : Option Endpoint) : String → Prop where
  | forwarded {s : String} : Names h forwardedFor s → ByPriority h peer s
  | proxy {s : String} : (∀ t, ¬Names h forwardedFor t) → Names h realIp s → ByPriority h peer s
  | peer {p : Endpoint} {a : Address} : (∀ t, ¬Names h forwardedFor t) →
      (∀ t, ¬Names h realIp t) → peer = some p → p.address.Recorded a →
      ByPriority h peer a.render
  | unknown : (∀ t, ¬Names h forwardedFor t) → (∀ t, ¬Names h realIp t) → peer = none →
      ByPriority h peer ""

/-- Whether a first hop that names nobody stands before a client that the proxy names. -/
def Hides (h : Headers) : Prop :=
  (∃ v, IsFirstValue h forwardedFor v) ∧ (∀ s, ¬Names h forwardedFor s) ∧ ∃ s, Names h realIp s

variable {h : Headers} {peer : Option Endpoint} {s : String}

/-- What is recorded if the header fields name this client. -/
def recorded (client : Option String) (peer : Option Endpoint) : String :=
  (client.or (peer.map fun p => p.address.normalized.render)).getD ""

lemma clientAddress_eq : clientAddress h peer =
    recorded (((h.first? forwardedFor).or (h.first? realIp)).bind named?) peer := by
  have hforwarded : forwarded? h =
      ((h.first? forwardedFor).or (h.first? realIp)).bind named? := by
    rw [forwarded?, Option.bind_assoc]
    rfl
  unfold clientAddress
  rw [hforwarded, recorded]
  cases ((h.first? forwardedFor).or (h.first? realIp)).bind named? with
  | some s => rfl
  | none => cases peer <;> rfl

lemma names_nobody_iff {name : String} :
    (∀ s, ¬Names h name s) ↔ (h.first? name).bind named? = none := by
  simp only [names_iff, Option.eq_none_iff_forall_ne_some, ne_eq]

lemma byPriority_iff : ByPriority h peer s ↔
    recorded (((h.first? forwardedFor).bind named?).or ((h.first? realIp).bind named?)) peer =
      s := by
  constructor
  · intro hs
    cases hs with
    | forwarded hs => rw [names_iff.mp hs]; rfl
    | proxy hnobody hs => rw [names_nobody_iff.mp hnobody, names_iff.mp hs]; rfl
    | peer hnobody hnobody' hpeer ha =>
      rw [names_nobody_iff.mp hnobody, names_nobody_iff.mp hnobody', hpeer,
        Address.recorded_iff.mp ha]
      rfl
    | unknown hnobody hnobody' hpeer =>
      rw [names_nobody_iff.mp hnobody, names_nobody_iff.mp hnobody', hpeer]
      rfl
  · rintro rfl
    cases hforwarded : (h.first? forwardedFor).bind named? with
    | some s => exact .forwarded (names_iff.mpr hforwarded)
    | none =>
      have hnobody := names_nobody_iff.mpr hforwarded
      cases hproxy : (h.first? realIp).bind named? with
      | some s => exact .proxy hnobody (names_iff.mpr hproxy)
      | none =>
        have hnobody' := names_nobody_iff.mpr hproxy
        cases peer with
        | some p => exact .peer hnobody hnobody' rfl (Address.recorded_iff.mpr rfl)
        | none => exact .unknown hnobody hnobody' rfl

/-- A field that is not hidden counts as its order among the sources says. -/
lemma named_of_not_hides (hshown : ¬Hides h) :
    ((h.first? forwardedFor).or (h.first? realIp)).bind named? =
      ((h.first? forwardedFor).bind named?).or ((h.first? realIp).bind named?) := by
  cases hforwarded : h.first? forwardedFor with
  | none => rfl
  | some v =>
    rw [Option.some_or, Option.bind_some]
    cases hv : named? v with
    | some s => rfl
    | none =>
      have hnobody : ∀ s, ¬Names h forwardedFor s := by
        rw [names_nobody_iff, hforwarded, Option.bind_some, hv]
      have hproxy : ∀ s, ¬Names h realIp s := fun s hs =>
        hshown ⟨⟨v, first_eq_some_iff.mp hforwarded⟩, hnobody, s, hs⟩
      rw [names_nobody_iff.mp hproxy]
      rfl

lemma named_of_hides (hhides : Hides h) :
    ((h.first? forwardedFor).or (h.first? realIp)).bind named? = none := by
  obtain ⟨⟨v, hv⟩, hnobody, -⟩ := hhides
  rw [names_nobody_iff, first_eq_some_iff.mpr hv] at hnobody
  rw [first_eq_some_iff.mpr hv]
  exact hnobody

lemma recorded_eq_empty_iff {client : Option String} (hclient : client ≠ some "") :
    recorded client peer = "" ↔ client = none ∧ peer = none := by
  cases client with
  | some s =>
    have hs : s ≠ "" := fun hs => hclient (congrArg some hs)
    simp [recorded, hs]
  | none =>
    cases peer with
    | some p => simp [recorded, Address.render_ne_empty]
    | none => simp [recorded]

lemma named_ne_empty (v? : Option FieldValue) : v?.bind named? ≠ some "" := by
  intro h
  obtain ⟨v, -, hv⟩ := Option.bind_eq_some_iff.mp h
  obtain ⟨cs, item, -, -, hne, hempty⟩ := named_eq_some_iff.mp hv
  exact hne (String.ofList_eq_empty_iff.mp hempty.symm)

/-- The recorded client is the one that the sources give in their order, unless a first hop that
names nobody hides a client that the proxy names: then it is what is recorded of a request without
header fields. The recorded text is empty only if nobody is named who is not hidden, and there is no
peer. -/
theorem recorded_client (h : Headers) (peer : Option Endpoint) :
    (¬Hides h → ∀ s, clientAddress h peer = s ↔ ByPriority h peer s) ∧
    (Hides h → ∀ s, clientAddress h peer = s ↔ ByPriority [] peer s) ∧
    (clientAddress h peer = "" ↔ peer = none ∧ (∀ s, ¬Names h forwardedFor s) ∧
      (Hides h ∨ ∀ s, ¬Names h realIp s)) := by
  refine ⟨fun hshown s => ?_, fun hhides s => ?_, ?_⟩
  · rw [clientAddress_eq, named_of_not_hides hshown, byPriority_iff]
  · rw [clientAddress_eq, named_of_hides hhides, byPriority_iff]
    rfl
  · rw [clientAddress_eq, recorded_eq_empty_iff (named_ne_empty _), and_comm]
    refine and_congr_right fun _ => ?_
    by_cases hhides : Hides h
    · exact iff_of_true (named_of_hides hhides) ⟨hhides.2.1, .inl hhides⟩
    · rw [named_of_not_hides hhides, Option.or_eq_none_iff, names_nobody_iff, names_nobody_iff]
      simp only [hhides, false_or]

/-- A first hop of blanks stands alone before a peer of version 6, which maps one of version 4. -/
theorem mapped_peer_recorded :
    let h : Headers := [(⟨forwardedFor⟩, ⟨Utf8.encode " , 10.0.0.1"⟩)]
    let peer : Endpoint := ⟨.v6 (V6.mapping ⟨192, 0, 2, 1⟩), 443⟩
    ¬Hides h ∧ ByPriority h (some peer) "192.0.2.1" := by
  intro h peer
  have hshown : ¬Hides h := by
    rintro ⟨-, -, s, hs⟩
    rw [names_iff] at hs
    cases hs
  have hclient : clientAddress h (some peer) = "192.0.2.1" := by decide +kernel
  obtain ⟨hpriority, -⟩ := recorded_client h (some peer)
  exact ⟨hshown, (hpriority hshown _).mp hclient⟩

/-- Without a peer nothing is recorded where a first hop of blanks hides the client that the proxy
names, though the order of the sources gives its address. -/
theorem blank_hop_hides_proxy :
    let h : Headers := [(⟨forwardedFor⟩, ⟨Utf8.encode " , 10.0.0.1"⟩),
      (⟨realIp⟩, ⟨Utf8.encode "198.51.100.2"⟩)]
    Hides h ∧ ByPriority h none "198.51.100.2" ∧ clientAddress h none = "" := by
  intro h
  have hclient : clientAddress h none = "" := by decide +kernel
  have hnobody : ∀ s, ¬Names h forwardedFor s := names_nobody_iff.mpr (by decide +kernel)
  have hproxy : Names h realIp "198.51.100.2" := names_iff.mpr (by decide +kernel)
  have hfirst : h.first? forwardedFor = some ⟨Utf8.encode " , 10.0.0.1"⟩ := by decide +kernel
  exact ⟨⟨⟨_, first_eq_some_iff.mp hfirst⟩, hnobody, _, hproxy⟩, .proxy hnobody hproxy, hclient⟩

end Net
end AuditTrail
