import AuditTrail.Proofs.CapturedEntries

/-!
# The bounded copy of a response body

What a body has copied of the data that it has passed on is the beginning of that data, and never
more than one octet past the limit. It reads like all of the data, so the record of a response does
not show how its body was cut into frames, and is the one that a request with the same body leaves.
-/

namespace AuditTrail.Http.Tee

variable {t : Tee} {e sent : Entry} {seen : Bytes}

/-- The body after `n` polls. -/
def after : Nat → Tee → Tee
  | 0, t => t
  | n + 1, t => t.poll.2.1.after n

/-- The data that `n` polls bring before one of them shows the end or an error. -/
def passed (n : Nat) (t : Tee) : Bytes :=
  (t.inner.passed n).flatMap Item.bytes

lemma captured_finish (t : Tee) : t.finish.1.captured = t.captured := by
  unfold finish
  split <;> rfl

lemma dataOf_closes {polled : Option Item} (h : closes polled = true) : dataOf polled = [] := by
  rcases polled with _ | ⟨bytes⟩ | _ | ⟨message⟩ | _
  · rfl
  · cases h
  · rfl
  · rfl
  · rfl

/-- A poll copies the data that it brings as far as there is room. -/
lemma captured_poll (h : t.captured = seen.take captureLimit) :
    t.poll.2.1.captured = (seen ++ dataOf t.poll.1).take captureLimit := by
  rw [poll_brings, poll_eq]
  split
  · next hcloses => rw [captured_finish, dataOf_closes hcloses, List.append_nil, h]
  · exact captured_capture h _

lemma captured_after (h : t.captured = seen.take captureLimit) (n : Nat) :
    (t.after n).captured = (seen ++ t.inner.delivered n).take captureLimit := by
  induction n generalizing t seen with
  | zero => simp [after, Stream.delivered, h]
  | succ n ih =>
    rw [after, ih (captured_poll h), Stream.delivered_succ, poll_brings, poll_inner,
      List.append_assoc]

/-- An entry that is sent has the record of the data passed on before. -/
lemma sent_awaits (h : t.Awaits e seen) {n : Nat} (hsent : some sent ∈ (t.use n).2) :
    sent = { e with responseBody := Body.recorded (seen ++ t.passed n) } := by
  rw [use_awaits h n] at hsent
  simpa [passed, List.mem_replicate] using hsent

/-- A body that is polled brings what the body inside holds, and copies at most one octet more than
is recorded of it. At each point the copy is cut and read as all the data that the polls have
brought. The entry that is sent has the record of the data passed on until then, however it was cut
into frames, and this is what the entry of a request has that comes with the same data. -/
theorem bounded_capture_reads_as_all (inner : Stream) (e : Entry) (n : Nat) :
    let t : Tee := ⟨inner, [], some e⟩
    let copy := (t.after n).captured
    (t.use n).1 = (List.range n).map (inner.toItems[·]?) ∧
      copy.length ≤ Body.maxSize + 1 ∧
      Body.capped copy = Body.capped (inner.delivered n) ∧
      Body.read copy = Body.read (inner.delivered n) ∧
      ∀ sent, some sent ∈ (t.use n).2 →
        sent.responseBody = Body.recorded (t.passed n) ∧
        ∀ now (r : Request) response ending, Stream.Content r.body.toItems (t.passed n) ending →
          (entryOf now r (readRequestBody r.body).1 response).requestBody = sent.responseBody := by
  intro t copy
  have hawaits : t.Awaits e [] := ⟨rfl, rfl⟩
  have hcopy : copy = (inner.delivered n).take captureLimit := captured_after hawaits.captured n
  refine ⟨use_brings n t, ?_, ?_, ?_, fun sent hsent => ?_⟩
  · rw [hcopy]
    exact List.length_take_le captureLimit _
  · rw [hcopy]
    exact Body.capped_take _
  · rw [hcopy]
    exact Body.read_take _
  · have hresponse : sent.responseBody = Body.recorded (t.passed n) := by
      rw [sent_awaits hawaits hsent]
      rfl
    refine ⟨hresponse, fun now r response ending hcontent => ?_⟩
    rw [hresponse, ← (readRequestBody_content hcontent).1]
    rfl

end AuditTrail.Http.Tee
