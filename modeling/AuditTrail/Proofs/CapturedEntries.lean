import AuditTrail.Proofs.Contents
import AuditTrail.Service
import Mathlib.Data.List.Basic

/-!
# One entry for each audited request

The entry of an audited request is sent once, when its response body ends, fails or is dropped,
whichever comes first. Until then the body is the only owner of the entry, and has copied as much of
the data that it has passed on as the record depends on.
-/

namespace AuditTrail

open Time (Instant)

namespace Body

/-- Whether a body fits shows in the first octet past the limit, and no octet past that one is
recorded. -/
lemma capped_take (s : Bytes) : capped (s.take (maxSize + 1)) = capped s := by
  by_cases hfits : s.length ≤ maxSize
  · rw [List.take_of_length_le (by omega)]
  · have hcut : ¬ (s.take (maxSize + 1)).length ≤ maxSize := by
      rw [List.length_take]
      omega
    simp only [capped, fits, hfits, hcut, decide_false, Bool.false_eq_true, if_false]
    rw [List.take_take, Nat.min_eq_left (Nat.le_succ maxSize)]

lemma read_take (s : Bytes) : read (s.take Http.Tee.captureLimit) = read s := by
  have hempty : (s.take Http.Tee.captureLimit).isEmpty = s.isEmpty := by
    cases s <;> rfl
  have hcapped : capped (s.take Http.Tee.captureLimit) = capped s := capped_take s
  simp only [read, hempty, object?, hcapped]

lemma recorded_take (s : Bytes) : recorded (s.take Http.Tee.captureLimit) = recorded s := by
  rw [recorded, read_take, recorded]

end Body

namespace Http

namespace Tee

/-- Polls a body `n` times and drops it: what each poll brings, and what is sent at each poll and at
the end. -/
def use : Nat → Tee → List (Option Item) × List (Option Entry)
  | 0, t => ([], [t.drop])
  | n + 1, t =>
    let (polled, t, sent) := t.poll
    let (brought, sends) := use n t
    (polled :: brought, sent :: sends)

/-- A body that has passed on the given data, and still has its entry. -/
structure Awaits (t : Tee) (e : Entry) (seen : Bytes) : Prop where
  entry : t.entry = some e
  captured : t.captured = seen.take captureLimit

variable {t : Tee} {e : Entry} {seen : Bytes}

/-- A poll passes on what the body inside gives. It either sends the entry or copies the data. -/
lemma poll_eq (t : Tee) :
    let polled := t.inner.poll.1
    let rest := { t with inner := t.inner.poll.2 }
    t.poll = if closes polled then (polled, rest.finish)
      else (polled, rest.capture (dataOf polled), none) := by
  rcases hpoll : t.inner.poll with ⟨_ | ⟨bytes⟩ | _ | ⟨message⟩ | _, inner⟩ <;>
    simp [poll, hpoll, closes, dataOf, capture, Item.isError, Item.bytes]

lemma poll_brings (t : Tee) : t.poll.1 = t.inner.poll.1 := by
  rw [poll_eq]
  split <;> rfl

lemma poll_inner (t : Tee) : t.poll.2.1.inner = t.inner.poll.2 := by
  rw [poll_eq]
  split
  · unfold finish
    split <;> rfl
  · rfl

/-- Once the entry has been sent there is none to be sent. -/
lemma poll_finished (h : t.entry = none) : t.poll.2.1.entry = none ∧ t.poll.2.2 = none := by
  rw [poll_eq]
  split <;> simp [finish, capture, h]

lemma drop_finished (h : t.entry = none) : t.drop = none := by
  simp only [drop, finish, h]

lemma finish_awaits (h : t.Awaits e seen) :
    t.finish = ({ t with entry := none }, some { e with responseBody := Body.recorded seen }) := by
  simp only [finish, h.entry, h.captured, Body.recorded_take]

/-- The end and an error send the entry. -/
lemma poll_closes (h : t.Awaits e seen) (hcloses : closes t.poll.1 = true) :
    t.poll.2.1.entry = none ∧
      t.poll.2.2 = some { e with responseBody := Body.recorded seen } := by
  have hrest : Awaits { t with inner := t.inner.poll.2 } e seen := ⟨h.entry, h.captured⟩
  rw [poll_brings] at hcloses
  rw [poll_eq]
  rw [if_pos hcloses, finish_awaits hrest]
  exact ⟨rfl, rfl⟩

lemma captured_capture (h : t.captured = seen.take captureLimit) (data : Bytes) :
    (t.capture data).captured = (seen ++ data).take captureLimit := by
  have hroom : captureLimit - (seen.take captureLimit).length = captureLimit - seen.length := by
    rw [List.length_take]
    omega
  simp only [capture, h]
  rw [hroom, List.take_append]

/-- Anything else sends nothing, and its data is copied. -/
lemma poll_passes (h : t.Awaits e seen) (hpasses : closes t.poll.1 = false) :
    t.poll.2.1.Awaits e (seen ++ dataOf t.poll.1) ∧ t.poll.2.2 = none := by
  rw [poll_brings] at hpasses ⊢
  rw [poll_eq]
  rw [hpasses, if_neg Bool.false_ne_true]
  exact ⟨⟨h.entry, captured_capture h.captured _⟩, rfl⟩

lemma drop_awaits (h : t.Awaits e seen) :
    t.drop = some { e with responseBody := Body.recorded seen } := by
  rw [drop, finish_awaits h]

lemma use_succ (n : Nat) (t : Tee) :
    t.use (n + 1) = (t.poll.1 :: (t.poll.2.1.use n).1, t.poll.2.2 :: (t.poll.2.1.use n).2) :=
  rfl

/-- The polls bring the items of the body inside, one after the other, and then nothing. -/
lemma use_brings (n : Nat) (t : Tee) :
    (t.use n).1 = (List.range n).map (t.inner.toItems[·]?) := by
  induction n generalizing t with
  | zero => rfl
  | succ n ih => rw [use_succ, ih, Stream.items_succ, poll_brings, poll_inner]

lemma use_finished (h : t.entry = none) (n : Nat) :
    (t.use n).2 = List.replicate (n + 1) none := by
  induction n generalizing t with
  | zero => rw [use, drop_finished h]; rfl
  | succ n ih =>
    obtain ⟨hentry, hsent⟩ := poll_finished h
    rw [use_succ, hsent, ih hentry]
    rfl

lemma exists_of_not_closes {polled : Option Item} (h : closes polled = false) :
    ∃ x, polled = some x := by
  cases polled with
  | none => cases h
  | some x => exact ⟨x, rfl⟩

/-- The entry is sent at the first poll that shows the end or an error, or at the end if there was
no such poll, with the data that has been passed on up to then. -/
lemma use_awaits (h : t.Awaits e seen) (n : Nat) :
    let passed := t.inner.passed n
    (t.use n).2 = List.replicate passed.length none ++
      some { e with responseBody := Body.recorded (seen ++ passed.flatMap Item.bytes) } ::
        List.replicate (n - passed.length) none := by
  dsimp only
  induction n generalizing t seen with
  | zero => simp [use, Stream.passed, drop_awaits h]
  | succ n ih =>
    rw [use_succ, Stream.passed_succ, ← poll_brings, ← poll_inner]
    cases hcloses : closes t.poll.1 with
    | true =>
      obtain ⟨hentry, hsent⟩ := poll_closes h hcloses
      simp [hsent, use_finished hentry]
    | false =>
      obtain ⟨hawaits, hsent⟩ := poll_passes h hcloses
      obtain ⟨x, hx⟩ := exists_of_not_closes hcloses
      simp [hsent, ih hawaits, hx, dataOf, List.replicate_succ]

example (e : Entry) :
    (use 3 ⟨.items [.trailers, .error "reset", .data [0x7B]], [], some e⟩).2 =
      [none, some { e with responseBody := [] }, none, none] := rfl

section Consume

variable {limit : Option Nat} {n : Nat}

lemma consumeWithin_stops (hlimit : limit = some 0) :
    consumeWithin limit (n + 1) t = (⟨[], none⟩, t.drop.toList) := by
  rw [consumeWithin, if_pos hlimit]

lemma consumeWithin_closes (hlimit : limit ≠ some 0) (hcloses : closes t.poll.1 = true) :
    (consumeWithin limit (n + 1) t).1.chunks = [] ∧
      (consumeWithin limit (n + 1) t).2 = t.poll.2.2.toList ++ t.poll.2.1.drop.toList := by
  rw [consumeWithin, if_neg hlimit]
  rcases hpoll : t.poll with ⟨_ | ⟨bytes⟩ | _ | ⟨message⟩ | _, rest, sent⟩ <;>
    simp_all [closes, Item.isError]

lemma consumeWithin_passes (hlimit : limit ≠ some 0) (hpasses : closes t.poll.1 = false) :
    ∃ limit', let after := consumeWithin limit' n t.poll.2.1
      (consumeWithin limit (n + 1) t).1.chunks.flatten =
          dataOf t.poll.1 ++ after.1.chunks.flatten ∧
        (consumeWithin limit (n + 1) t).2 = t.poll.2.2.toList ++ after.2 := by
  rw [consumeWithin, if_neg hlimit]
  rcases hpoll : t.poll with ⟨_ | ⟨bytes⟩ | _ | ⟨message⟩ | _, rest, sent⟩
  · simp [hpoll, closes] at hpasses
  · exact ⟨limit.map (· - 1), by simp [dataOf, Item.bytes]⟩
  · exact ⟨limit, by simp [dataOf, Item.bytes]⟩
  · simp [hpoll, closes, Item.isError] at hpasses
  · exact ⟨limit, by simp [dataOf, Item.bytes]⟩

lemma consumeWithin_finished (h : t.entry = none) (limit : Option Nat) (n : Nat) :
    (consumeWithin limit n t).2 = [] := by
  induction n generalizing t limit with
  | zero => simp [consumeWithin, drop_finished h]
  | succ n ih =>
    obtain ⟨hentry, hsent⟩ := poll_finished h
    by_cases hlimit : limit = some 0
    · simp [consumeWithin_stops hlimit, drop_finished h]
    cases hcloses : closes t.poll.1 with
    | true => simp [(consumeWithin_closes hlimit hcloses).2, hsent, drop_finished hentry]
    | false =>
      obtain ⟨limit', -, hentries⟩ := consumeWithin_passes (n := n) hlimit hcloses
      simp [hentries, hsent, ih hentry]

/-- A client that reads a body until it ends or fails, or as much of it as it wants, makes the body
send its entry once, with what the client has read. -/
lemma consumeWithin_awaits (h : t.Awaits e seen) (limit : Option Nat) (n : Nat) :
    let (reading, entries) := consumeWithin limit n t
    entries = [{ e with responseBody := Body.recorded (seen ++ reading.chunks.flatten) }] := by
  dsimp only
  induction n generalizing t seen limit with
  | zero => simp [consumeWithin, drop_awaits h]
  | succ n ih =>
    by_cases hlimit : limit = some 0
    · simp [consumeWithin_stops hlimit, drop_awaits h]
    cases hcloses : closes t.poll.1 with
    | true =>
      obtain ⟨hentry, hsent⟩ := poll_closes h hcloses
      obtain ⟨hchunks, hentries⟩ := consumeWithin_closes (n := n) hlimit hcloses
      simp [hchunks, hentries, hsent, drop_finished hentry]
    | false =>
      obtain ⟨hawaits, hsent⟩ := poll_passes h hcloses
      obtain ⟨limit', hchunks, hentries⟩ := consumeWithin_passes (n := n) hlimit hcloses
      rw [hchunks, hentries, hsent, ih hawaits, List.append_assoc]
      rfl

end Consume

end Tee

lemma recorded_readRequestBody (s : Stream) : (readRequestBody s).1 = s.read.1.flatten := by
  unfold readRequestBody
  rcases s.read with ⟨chunks, _ | _⟩ <;> rfl

section Audited

variable {α : Type} {handler : Request → Response × α} {now : Instant} {r : Request}

lemma audited_reading (h : r.method = .get ∨ r.method = .head) :
    audited handler now r = (⟨(handler r).1.status, (handler r).1.headers,
      .plain (handler r).1.body⟩, (handler r).2) := by
  have hmethod : r.method.isAudited = false := by
    rcases h with h | h <;> rw [h] <;> rfl
  rw [audited, hmethod, if_neg Bool.false_ne_true]

/-- A request that may change something gets a body that waits with its entry. -/
lemma audited_writing (h : r.method ≠ .get ∧ r.method ≠ .head) :
    let answer := handler { r with body := (readRequestBody r.body).2 }
    audited handler now r = (⟨answer.1.status, answer.1.headers, ⟨answer.1.body, [],
      some (entryOf now r r.body.read.1.flatten answer.1)⟩⟩, answer.2) := by
  have hmethod : r.method.isAudited = true := by simp [Method.isAudited, h]
  rw [audited, if_pos hmethod, ← recorded_readRequestBody]

end Audited

/-- Whatever route answers it, a request that is not just for reading leaves one entry, and it is
sent when the response body ends, fails or is dropped, at the first of these and not before, however
often the body is polled. It tells the request, the answer, who the client is, and of the bodies
what has been read of them. A request for reading leaves none. -/
theorem one_entry_for_each_audited_request (app : AppRoutes) (lookup : Lookup) (now : Instant)
    (r : Request) :
    let reply := (audited (route app lookup now) now r).1
    let response := (route app lookup now { r with body := (readRequestBody r.body).2 }).1
    let who := (response.identity.or r.identity).getD .anonymous
    (r.method = .get ∨ r.method = .head →
      (∀ n, (reply.body.use n).2 = List.replicate (n + 1) none) ∧
        ∀ (s : Service) limit, (s.read reply.body limit).1 = s) ∧
    (r.method ≠ .get ∧ r.method ≠ .head →
      ∃ received ending, Stream.Content r.body.toItems received ending ∧
        let entry (brought : Bytes) : Entry :=
          { method := r.method.name
            url := r.target.path
            status := response.status
            userId := who.userId
            userIp := Net.clientAddress r.headers r.peer
            userRole := if who.isStore then .shop else if who.isAdmin then .admin else .user
            receivedAt := now
            requestBody := Body.recorded received
            responseBody := Body.recorded brought }
        (∀ n,
          let passed := (response.body.toItems.take n).takeWhile (!·.isError)
          (reply.body.use n).1 = (List.range n).map (response.body.toItems[·]?) ∧
            (reply.body.use n).2 = List.replicate passed.length none ++
              some (entry (passed.flatMap Item.bytes)) ::
                List.replicate (n - passed.length) none) ∧
          ∀ (s : Service) limit,
            let (after, reading) := s.read reply.body limit
            after = (s.send (entry reading.chunks.flatten)).1) := by
  intro reply response who
  refine ⟨fun hreading => ?_, fun hwriting => ?_⟩
  · have hbody : reply.body.entry = none := by
      simp only [reply, audited_reading hreading]
      rfl
    refine ⟨fun n => Tee.use_finished hbody n, fun s limit => ?_⟩
    have hentries := Tee.consumeWithin_finished hbody limit reply.body.pollBound
    simp only [Service.read, Tee.consume, hentries]
    rfl
  · refine ⟨_, _, Stream.content_read r.body, ?_⟩
    intro entry
    have hreply : reply.body = ⟨response.body, [], some (entry [])⟩ := by
      simp only [reply, audited_writing hwriting]
      rfl
    have hbody : reply.body.Awaits (entry []) [] := by
      rw [hreply]
      exact ⟨rfl, rfl⟩
    have hinner : reply.body.inner = response.body := by rw [hreply]
    refine ⟨fun n => ⟨?_, ?_⟩, fun s limit => ?_⟩
    · rw [Tee.use_brings, hinner]
    · have hsends := Tee.use_awaits hbody n
      rwa [hinner] at hsends
    · have hentries := Tee.consumeWithin_awaits hbody limit reply.body.pollBound
      simp only [Service.read, Tee.consume, hentries]
      rfl

end Http
end AuditTrail
