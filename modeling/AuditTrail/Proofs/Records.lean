import AuditTrail.Entry.Record
import AuditTrail.Proofs.Instants
import AuditTrail.Proofs.Values

/-!
# Entries are read as they were written

Each member of an entry is read into a draft that has no value for it yet, so the nine members in
their order complete the draft. The entry is the one that was written, up to the fractions in its
bodies. As the entry is itself a container, its bodies may nest one container less deep than a text.
-/

namespace AuditTrail

open Json Utf8

section Members

lemma text_reads (s : String) : ReadsAs Json.text (Literal.quoted s) (some s) :=
  fun rest _ => key_quoted s rest

lemma digits_reads {bound n : Nat} (hbound : bound ≤ Word.limit64) (hn : n < bound) :
    ReadsAs (natBelow bound) (Nat.toDigits 10 n) (some n) := by
  intro rest hrest
  have hvalue := value_chars 0 (.ofNat n) rest hrest
  have hchars : chars (.ofNat n) = Nat.toDigits 10 n := rfl
  have hreread : reread 0 (.ofNat n) = some (.ofNat n) := by
    have hsame : (Number.integer n).reread = some (.integer n) :=
      Number.reread_integer (by omega) (by omega)
    rw [Json.ofNat, reread, hsame]
    rfl
  rw [hchars, hreread] at hvalue
  have hrange : (0 : Int) ≤ n ∧ (n : Int) < bound := by omega
  simp only [natBelow, hvalue, Option.map_some, Json.ofNat, asNat?, if_pos hrange,
    Int.toNat_natCast]

lemma ofName_name (r : Role) : Role.ofName? r.name = some r := by
  cases r <;> rfl

lemma role_reads (depth : Nat) (r : Role) :
    ReadsAs (Role.read depth) (Literal.quoted r.name) (some r) := by
  intro rest _
  rw [encode_quoted, Role.read, Json.dropBlank_cons (by decide)]
  simp only [Literal.read_escape, Option.bind_eq_bind, Option.bind_some, ofName_name,
    Option.map_some]

lemma instant_reads {t : Time.Instant} (h : t.isValid = true) :
    ReadsAs Time.Instant.read (Literal.quoted t.render) (some t) := by
  intro rest hrest
  simp only [Time.Instant.read, text_reads t.render rest hrest, Time.Instant.relaxed_render h,
    Option.bind_eq_bind, Option.bind_some, Option.map_some]

/-- What is read where the body `o` has been written, within a nesting of `depth`. -/
def Json.Object.reread (depth : Nat) (o : Object) : Option Object :=
  (Json.reread depth (object o)).bind asObject?

lemma Json.Object.reread_object (depth : Nat) (o : Object) :
    Json.reread depth (object o) = (o.reread depth).map object := by
  unfold Object.reread
  cases depth with
  | zero => rfl
  | succ depth =>
    rw [Json.reread]
    cases o.mapM fun m => (Json.reread depth m.2).map (m.1, ·) <;> rfl

lemma object_reads (depth : Nat) (o : Object) :
    ReadsAs (objectWithin depth) (objectChars o) (o.reread depth) := by
  intro rest hrest
  have hvalue := value_chars depth (object o) rest hrest
  rw [Object.reread_object] at hvalue
  rw [objectWithin, objectChars, hvalue]
  cases o.reread depth <;> rfl

section Bodies

variable {depth : Nat} {o : Object}

/-- A body is found unchanged if it nests no deeper than the reader goes and its numbers stay. -/
lemma Json.Object.reread_self {p : Number → Prop} (hp : ∀ n, p n → n.reread = some n)
    (hnests : Nests depth (object o)) (hregular : Regular p (object o)) :
    o.reread depth = some o := by
  rw [Object.reread, Json.reread_self hp hnests hregular]
  rfl

lemma Json.Object.reread_isSome_iff (hregular : Regular Number.IsWord (object o)) :
    (o.reread depth).isSome = true ↔ Nests depth (object o) := by
  rw [← Json.reread_isSome_iff hregular, Object.reread_object, Option.isSome_map]

end Bodies

end Members

namespace Entry

open Draft

/-- A draft with a member that it had no value for. -/
def enter {α : Type} (old got : Option α) (put : Option α → Draft) : Option Draft :=
  match old with
  | some _ => none
  | none => got.map fun x => put (some x)

lemma once_reads {α : Type} {reader : Reader α} {cs : List Char} {got : Option α}
    (h : ReadsAs reader cs got) (old : Option α) (put : Option α → Draft) :
    ReadsAs (once old reader put) cs (enter old got put) := by
  intro rest hrest
  unfold once enter
  cases old with
  | some _ => rfl
  | none =>
    dsimp only
    rw [h rest hrest]
    cases got <;> rfl

/-- The draft after a member of `e` has been read into it. -/
def fill (depth : Nat) (e : Entry) (d : Draft) : Field → Option Draft
  | .method => enter d.method (some e.method) ({ d with method := · })
  | .url => enter d.url (some e.url) ({ d with url := · })
  | .status => enter d.status (some e.status) ({ d with status := · })
  | .userId => enter d.userId (some e.userId) ({ d with userId := · })
  | .userIp => enter d.userIp (some e.userIp) ({ d with userIp := · })
  | .userRole => enter d.userRole (some e.userRole) ({ d with userRole := · })
  | .receivedAt => enter d.receivedAt (some e.receivedAt) ({ d with receivedAt := · })
  | .requestBody =>
    enter d.requestBody (e.requestBody.reread depth) ({ d with requestBody := · })
  | .responseBody =>
    enter d.responseBody (e.responseBody.reread depth) ({ d with responseBody := · })

/-- An entry whose members, its bodies apart, are such as the program records. -/
structure Recordable (e : Entry) : Prop where
  status : e.status < Word.limit16
  userId : e.userId < Word.limit64
  receivedAt : e.receivedAt.isValid = true

variable {e : Entry}

lemma member_reads (h : e.Recordable) (depth : Nat) (d : Draft) (f : Field) :
    ReadsAs (d.read depth f) (e.valueChars f) (fill depth e d f) := by
  cases f <;> simp only [Draft.read, valueChars, fill]
  case method => exact once_reads (text_reads e.method) _ _
  case url => exact once_reads (text_reads e.url) _ _
  case status => exact once_reads (digits_reads (by decide) h.status) _ _
  case userId => exact once_reads (digits_reads le_rfl h.userId) _ _
  case userIp => exact once_reads (text_reads e.userIp) _ _
  case userRole => exact once_reads (role_reads depth e.userRole) _ _
  case receivedAt => exact once_reads (instant_reads h.receivedAt) _ _
  case requestBody => exact once_reads (object_reads depth e.requestBody) _ _
  case responseBody => exact once_reads (object_reads depth e.responseBody) _ _

lemma ofName_field (f : Field) : Field.ofName? f.name = some f := by
  cases f <;> rfl

/-- The text of a member. -/
def memberChars (e : Entry) (f : Field) : List Char :=
  Literal.quoted f.name ++ ':' :: e.valueChars f

lemma encode_member (e : Entry) (f : Field) (s : Bytes) :
    encodeChars (e.memberChars f) ++ s =
      encodeChars (Literal.quoted f.name) ++ 0x3A :: (encodeChars (e.valueChars f) ++ s) := by
  rw [memberChars, encodeChars_append, List.append_assoc, encode_ascii ':' (by decide)]
  rfl

lemma readMembers_last (h : e.Recordable) (depth n : Nat) (d : Draft) (f : Field) (s : Bytes) :
    readMembers depth (n + 1) d (encodeChars (e.memberChars f) ++ 0x7D :: s) =
      (fill depth e d f).map (·, s) := by
  have hcolon : ∀ t, colon (0x3A :: t) = some t := fun _ => rfl
  rw [readMembers, encode_member]
  simp only [key_quoted, hcolon, ofName_field, Option.bind_eq_bind, Option.bind_some,
    member_reads h depth d f _ (Stops.brace.ends s)]
  cases fill depth e d f with
  | none => rfl
  | some d => simp [Stops.brace.dropBlank]

lemma readMembers_next (h : e.Recordable) (depth n : Nat) (d : Draft) (f : Field) (s : Bytes) :
    readMembers depth (n + 1) d (encodeChars (e.memberChars f) ++ 0x2C :: s) =
      (fill depth e d f).bind fun d => readMembers depth n d s := by
  have hcolon : ∀ t, colon (0x3A :: t) = some t := fun _ => rfl
  rw [readMembers, encode_member]
  simp only [key_quoted, hcolon, ofName_field, Option.bind_eq_bind, Option.bind_some,
    member_reads h depth d f _ (Stops.comma.ends s)]
  cases fill depth e d f with
  | none => rfl
  | some d => simp [Stops.comma.dropBlank]

/-- The members of an entry are read into a draft one after the other. -/
lemma readMembers_written (h : e.Recordable) (depth : Nat) {fs : List Field} (hne : fs ≠ [])
    {n : Nat} (hn : fs.length ≤ n) (d : Draft) (rest : Bytes) :
    readMembers depth n d (encodeChars (commaSeparated (fs.map e.memberChars)) ++ 0x7D :: rest) =
      (fs.foldlM (fill depth e) d).map (·, rest) := by
  induction fs generalizing n d with
  | nil => exact (hne rfl).elim
  | cons f fs ih =>
    obtain ⟨n, rfl⟩ := Nat.exists_eq_succ_of_ne_zero (show n ≠ 0 by rintro rfl; simp at hn)
    -- Only the last member is closed by the brace.
    cases fs with
    | nil =>
      rw [List.map_singleton, commaSeparated, readMembers_last h]
      simp
    | cons g gs =>
      have hsplit : commaSeparated ((f :: g :: gs).map e.memberChars) =
          e.memberChars f ++ ',' :: commaSeparated ((g :: gs).map e.memberChars) := rfl
      rw [hsplit, encode_comma, readMembers_next h, List.foldlM_cons]
      cases fill depth e d f with
      | none => rfl
      | some d => exact ih (by simp) (by simpa using hn) d

/-- The entry with its bodies as they are read within a nesting of `depth`. -/
def reread (depth : Nat) (e : Entry) : Option Entry :=
  (e.requestBody.reread depth).bind fun request =>
    (e.responseBody.reread depth).map fun response =>
      { e with requestBody := request, responseBody := response }

/-- The nine members, one after the other, complete a draft. -/
lemma fill_all (depth : Nat) (e : Entry) :
    ((Field.all.foldlM (fill depth e) {}).bind fun d => d.finish?) = e.reread depth := by
  unfold reread
  simp only [Field.all, List.foldlM_cons, List.foldlM_nil, fill, enter, Option.map_some,
    Option.bind_eq_bind, Option.bind_some]
  cases e.requestBody.reread depth with
  | none => rfl
  | some request =>
    cases e.responseBody.reread depth with
    | none => rfl
    | some response => rfl

/-- An entry is found where it has been written, with its bodies as they are read. -/
theorem parse_chars (h : e.Recordable) : parse? (encodeChars e.chars) = e.reread 126 := by
  let members := encodeChars (commaSeparated (Field.all.map e.memberChars))
  have hlength : Field.all.length ≤ members.length :=
    length_commaSeparated fun f _ => begins_quoted .brace f.name _
  have hmembers : readMembers 126 (members ++ [0x7D]).length {} (members ++ [0x7D]) =
      (Field.all.foldlM (fill 126 e) {}).map (·, []) :=
    readMembers_written h 126 (by decide) (by rw [List.length_append]; omega) {} []
  have hchars : encodeChars e.chars = 0x7B :: (members ++ [0x7D]) := by
    have hencode := encode_ascii '\x7b' (by decide)
      (commaSeparated (Field.all.map e.memberChars) ++ ['\x7d']) []
    rw [List.append_nil, List.append_nil, encodeChars_append] at hencode
    exact hencode
  rw [hchars, parse?, whole, read, dropBlank_cons (by decide), ← fill_all]
  simp only [maxDepth, Nat.reduceSub, hmembers]
  cases Field.all.foldlM (fill 126 e) {} with
  | none => rfl
  | some d =>
    simp only [Option.map_some, Option.bind_eq_bind, Option.bind_some]
    cases d.finish? <;> rfl

lemma reread_self {depth : Nat} (hrequest : e.requestBody.reread depth = some e.requestBody)
    (hresponse : e.responseBody.reread depth = some e.responseBody) :
    e.reread depth = some e := by
  rw [reread, hrequest, hresponse]
  rfl

lemma reread_isSome (depth : Nat) (e : Entry) : (e.reread depth).isSome =
    ((e.requestBody.reread depth).isSome && (e.responseBody.reread depth).isSome) := by
  rw [reread]
  cases e.requestBody.reread depth with
  | none => rfl
  | some request => simp

/-- Only the bodies of an entry may be found changed. -/
lemma reread_keeps {depth : Nat} {e' : Entry} (h : e.reread depth = some e') :
    ∃ request response,
      e' = { e with requestBody := request, responseBody := response } := by
  simp only [reread, Option.bind_eq_some_iff, Option.map_eq_some_iff] at h
  obtain ⟨request, -, response, -, rfl⟩ := h
  exact ⟨request, response, rfl⟩

lemma accepts_reread {depth : Nat} {e' : Entry} (h : e.reread depth = some e') (f : Filter) :
    f.accepts e' = f.accepts e := by
  obtain ⟨request, response, rfl⟩ := reread_keeps h
  rfl

/-- Whether the bodies of an entry leave room for the container that the entry is. -/
def LeavesRoom (e : Entry) : Prop :=
  Nests 126 (object e.requestBody) ∧ Nests 126 (object e.responseBody)

lemma reread_isSome_iff_leavesRoom (hrequest : Regular Number.IsWord (object e.requestBody))
    (hresponse : Regular Number.IsWord (object e.responseBody)) :
    (e.reread 126).isSome = true ↔ e.LeavesRoom := by
  rw [reread_isSome, Bool.and_eq_true, Object.reread_isSome_iff hrequest,
    Object.reread_isSome_iff hresponse, LeavesRoom]

/-- An entry whose bodies leave room and have integers for numbers. -/
structure Plain (e : Entry) : Prop extends e.Recordable where
  room : e.LeavesRoom
  request : Regular Number.IsInteger (object e.requestBody)
  response : Regular Number.IsInteger (object e.responseBody)

/-- A plain entry is found unchanged. -/
lemma Plain.reread (h : e.Plain) : e.reread 126 = some e :=
  have hnumber : ∀ n : Number, n.IsInteger → n.reread = some n := fun _ => Number.IsInteger.reread
  reread_self (Object.reread_self hnumber h.room.1 h.request)
    (Object.reread_self hnumber h.room.2 h.response)

lemma printable_toDigits (n : Nat) : ∀ c ∈ Nat.toDigits 10 n, 0x20 ≤ c.toNat :=
  printable_chars (.ofNat n)

lemma printable_value (e : Entry) (f : Field) : ∀ c ∈ e.valueChars f, 0x20 ≤ c.toNat := by
  cases f
  case status => exact printable_toDigits e.status
  case userId => exact printable_toDigits e.userId
  case requestBody => exact printable_chars (.object e.requestBody)
  case responseBody => exact printable_chars (.object e.responseBody)
  all_goals exact printable_quoted _

/-- The text of an entry has no control characters, so no line ends in it. -/
theorem printable_entry (e : Entry) : ∀ c ∈ e.chars, 0x20 ≤ c.toNat := by
  refine printable_enclosed (by decide) (by decide) fun x hx => ?_
  obtain ⟨f, -, rfl⟩ := List.mem_map.mp hx
  intro c hc
  rcases List.mem_append.mp hc with hc | hc
  · exact printable_quoted f.name c hc
  · rcases List.mem_cons.mp hc with rfl | hc
    · decide
    · exact printable_value e f c hc

end Entry
end AuditTrail
