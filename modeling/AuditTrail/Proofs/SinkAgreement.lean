import AuditTrail.Proofs.FileSink

/-!
# The two sinks agree

A file that is written by nothing else answers every query as the sink in memory does that got the
same batches, as long as the entries are plain. Each batch keeps the file the image of the memory,
and a plain entry is read from its line unchanged.
-/

namespace AuditTrail.Sink

open Json

namespace Store

/-- The store after some batches, and the answers to them. -/
def appendAll (s : Store) : List (List Entry) → Store × List (Except Failure Unit)
  | [] => (s, [])
  | batch :: batches =>
    let (s, answer) := s.append batch
    let (s, answers) := appendAll s batches
    (s, answer :: answers)

/-- A file that holds what a memory does, neither of them being about to refuse a batch. -/
structure Agrees (file : File) (m : Memory) : Prop where
  willing : m.failuresLeft = 0
  holds : File.Holds m.entries file

variable {file : File} {m : Memory}

/-- Both sinks take a batch, and still agree with it. -/
lemma append_agrees (h : Agrees file m) (batch : List Entry) :
    ∃ file' m', (Store.file file).append batch = (.file file', .ok ()) ∧
      (memory m).append batch = (memory m', .ok ()) ∧ Agrees file' m' ∧
      m'.entries = m.entries ++ batch := by
  obtain ⟨file', hfile, hholds⟩ := File.append_holds h.holds batch
  have hentries : (m.batches ++ [batch]).flatten = m.entries ++ batch := by simp [Memory.entries]
  refine ⟨file', { m with attempts := m.attempts + 1, batches := m.batches ++ [batch] },
    ?_, ?_, ⟨h.willing, ?_⟩, hentries⟩
  · simp only [append, hfile]
  · simp only [append, Memory.append, h.willing, Nat.lt_irrefl, if_false]
  · rw [Memory.entries, hentries]
    exact hholds

/-- Any number of batches leaves sinks that agree. -/
lemma appendAll_agrees (h : Agrees file m) (batches : List (List Entry)) :
    ∃ file' m' answers, (Store.file file).appendAll batches = (.file file', answers) ∧
      (memory m).appendAll batches = (memory m', answers) ∧ Agrees file' m' ∧
      m'.entries = m.entries ++ batches.flatten ∧ ∀ answer ∈ answers, answer = .ok () := by
  induction batches generalizing file m with
  | nil => exact ⟨file, m, [], rfl, rfl, h, (List.append_nil _).symm, by simp⟩
  | cons batch batches ih =>
    obtain ⟨file₁, m₁, hfile, hmemory, hagrees, hentries⟩ := append_agrees h batch
    obtain ⟨file', m', answers, hfile', hmemory', hagrees', hentries', hanswers⟩ := ih hagrees
    refine ⟨file', m', .ok () :: answers, ?_, ?_, hagrees', ?_, ?_⟩
    · rw [appendAll, hfile]
      simp only [hfile']
    · rw [appendAll, hmemory]
      simp only [hmemory']
    · rw [hentries', hentries, List.flatten_cons, List.append_assoc]
    · exact List.forall_mem_cons.mpr ⟨rfl, hanswers⟩

/-- A file with plain entries answers as the memory does that it agrees with. -/
lemma query_agrees (h : Agrees file m) (hplain : ∀ e ∈ m.entries, e.Plain) (f : Filter) :
    (Store.file file).query f = (memory m).query f := by
  have hself : m.entries.filterMap (Entry.reread 126) = m.entries := by
    rw [List.filterMap_congr fun e he => (hplain e he).reread]
    exact List.filterMap_some
  have hnone : (m.entries.zipIdx 1).filter (fun p => (p.1.reread 126).isNone) = [] := by
    rw [List.filter_eq_nil_iff]
    intro p hmem
    simp [(hplain p.1 (List.fst_mem_of_mem_zipIdx hmem)).reread]
  have hquery := File.query_holds h.holds (fun e he => (hplain e he).toRecordable) f
  rw [hself, hnone] at hquery
  simp only [query, hquery]
  rfl

/-- Batches of plain entries, given to a memory and to a file that is missing or empty: both take
all of them, and then give the same page for every filter. -/
theorem file_refines_memory {batches : List (List Entry)}
    (hfile : file = .missing ∨ file = .content [])
    (hplain : ∀ batch ∈ batches, ∀ e ∈ batch, e.Plain) :
    let onDisk := (Store.file file).appendAll batches
    let inMemory := (memory .empty).appendAll batches
    onDisk.2 = inMemory.2 ∧ (∀ answer ∈ inMemory.2, answer = .ok ()) ∧
      ∀ f, onDisk.1.query f = inMemory.1.query f ∧
        inMemory.1.query f = .ok (Page.select f batches.flatten, []) := by
  have hempty : Agrees file Memory.empty := ⟨rfl, File.holds_nothing hfile⟩
  obtain ⟨file', m', answers, hdisk, hmemory, hagrees, hentries, hanswers⟩ :=
    appendAll_agrees hempty batches
  have hall : m'.entries = batches.flatten := hentries
  have hplain' : ∀ e ∈ m'.entries, e.Plain := by
    rw [hall]
    intro e he
    obtain ⟨batch, hbatch, he⟩ := List.mem_flatten.mp he
    exact hplain batch hbatch e he
  dsimp only
  rw [hdisk, hmemory]
  refine ⟨rfl, hanswers, fun f => ⟨query_agrees hagrees hplain' f, ?_⟩⟩
  rw [← hall]
  rfl

/-- An entry of a leap second, with the greatest integer and a line end in its body. -/
def leapEntry : Entry where
  method := "POST"
  url := "/api/v1/orders"
  status := 201
  userId := 7
  userIp := "10.0.0.1"
  userRole := .shop
  receivedAt := ⟨1483228799, 1500000000⟩
  requestBody := [("größe", .number (.integer 18446744073709551615)), ("zeile", .string "a\nb")]
  responseBody := [("ids", .array [.number (.integer (-1)), .null])]

lemma plain_leapEntry : leapEntry.Plain where
  status := by decide
  userId := by decide
  receivedAt := by decide
  room := by
    refine ⟨.object ?_, .object ?_⟩
    · simpa [leapEntry] using ⟨Nests.number _, Nests.string _⟩
    · have hids : Nests 125 (.array [.number (.integer (-1)), .null]) :=
        .array (by simpa using ⟨Nests.number _, Nests.null⟩)
      simpa [leapEntry] using hids
  request := by
    have hsorted : ("größe" : String) < "zeile" := by decide
    have hgreatest : Number.IsInteger (.integer 18446744073709551615) := by
      constructor <;> decide
    refine .object (List.pairwise_pair.mpr hsorted) ?_
    simpa [leapEntry] using ⟨Regular.number hgreatest, Regular.string _⟩
  response := by
    have hleast : Number.IsInteger (.integer (-1)) := by constructor <;> decide
    have hids : Regular Number.IsInteger (.array [.number (.integer (-1)), .null]) :=
      .array (by simpa using ⟨Regular.number hleast, Regular.null⟩)
    refine .object (List.pairwise_singleton _ _) ?_
    simpa [leapEntry] using hids

/-- Two batches of such entries, the first of them empty. -/
theorem leap_entries_agree :
    let onDisk := (Store.file .missing).appendAll [[], [leapEntry, leapEntry]]
    let inMemory := (memory .empty).appendAll [[], [leapEntry, leapEntry]]
    onDisk.2 = inMemory.2 ∧ (∀ answer ∈ inMemory.2, answer = .ok ()) ∧
      ∀ f, onDisk.1.query f = inMemory.1.query f ∧
        inMemory.1.query f = .ok (Page.select f [leapEntry, leapEntry], []) :=
  file_refines_memory (.inl rfl) (by simpa using plain_leapEntry)

end Store
end AuditTrail.Sink
