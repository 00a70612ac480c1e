import AuditTrail.Proofs.CapturedEntries

/-!
# The audit layer is transparent

The handler gets a body with the content of the one that the client has sent, and the client gets
the answer of the handler, frame by frame. What is sent down the pipeline on the way shows nowhere
in it.
-/

namespace AuditTrail

open Time (Instant)

namespace Http

section Answer

variable {α : Type} (handler : Request → Response × α) (now : Instant) (r : Request)

/-- The layer gives the handler a body of the same content, and passes on what it answers. -/
lemma audited_answer :
    ∃ body : Stream, body.SameContent r.body ∧
      (audited handler now r).2 = (handler { r with body }).2 ∧
      (audited handler now r).1.status = (handler { r with body }).1.status ∧
      (audited handler now r).1.headers = (handler { r with body }).1.headers ∧
      (audited handler now r).1.body.inner = (handler { r with body }).1.body := by
  by_cases hreading : r.method = .get ∨ r.method = .head
  · refine ⟨r.body, .refl r.body, ?_⟩
    rw [audited_reading hreading]
    exact ⟨rfl, rfl, rfl, rfl⟩
  · have hcontent := Stream.content_read r.body
    refine ⟨(readRequestBody r.body).2, ⟨_, _, (readRequestBody_content hcontent).2, hcontent⟩, ?_⟩
    rw [audited_writing (not_or.mp hreading)]
    exact ⟨rfl, rfl, rfl, rfl⟩

variable {handler r}

/-- A handler that reads nothing of a body but its content answers as it does without the layer. -/
theorem audited_unnoticed
    (hcontent : ∀ body : Stream, body.SameContent r.body → handler { r with body } = handler r) :
    (audited handler now r).2 = (handler r).2 ∧
      (audited handler now r).1.status = (handler r).1.status ∧
      (audited handler now r).1.headers = (handler r).1.headers ∧
      (audited handler now r).1.body.inner = (handler r).1.body := by
  obtain ⟨body, hsame, hanswer⟩ := audited_answer handler now r
  rwa [hcontent body hsame] at hanswer

end Answer

namespace Tee

variable {t t' : Tee}

/-- What a client reads does not depend on what is kept of it. -/
lemma reading_of_inner (h : t.inner = t'.inner) (limit : Option Nat) (n : Nat) :
    (consumeWithin limit n t).1 = (consumeWithin limit n t').1 := by
  induction n generalizing t t' limit with
  | zero => rfl
  | succ n ih =>
    have hpolled : t.poll.1 = t'.poll.1 := by rw [poll_brings, poll_brings, h]
    have hrest : t.poll.2.1.inner = t'.poll.2.1.inner := by rw [poll_inner, poll_inner, h]
    have hreading := fun limit => ih hrest limit
    rcases hpoll : t.poll with ⟨polled, rest, sent⟩
    rcases hpoll' : t'.poll with ⟨polled', rest', sent'⟩
    rw [hpoll, hpoll'] at hpolled hreading
    obtain rfl : polled = polled' := hpolled
    rw [consumeWithin, consumeWithin, hpoll, hpoll']
    split
    · rfl
    · rcases polled with _ | ⟨bytes⟩ | _ | ⟨message⟩ | _ <;> simp [hreading]

lemma poll_cons {x : Item} {xs : List Item} (h : t.inner.toItems = x :: xs) :
    ∃ rest sent, t.poll = (some x, rest, sent) ∧ rest.inner.toItems = xs := by
  have hpolled : t.poll.1 = some x := by
    rw [poll_brings, Stream.poll_head, h, List.head?_cons]
  refine ⟨t.poll.2.1, t.poll.2.2, Prod.ext hpolled rfl, ?_⟩
  rw [poll_inner, Stream.poll_tail, h, List.tail_cons]

/-- Whoever reads a body to its end gets its content. -/
lemma reading_content {xs : List Item} {s : Bytes} {e : Option String}
    (h : Stream.Content xs s e) {n : Nat} (hitems : t.inner.toItems = xs) (hn : xs.length < n) :
    (consumeWithin none n t).1.chunks.flatten = s ∧ (consumeWithin none n t).1.error = e := by
  induction h generalizing t n with
  | ended =>
    obtain ⟨n, rfl⟩ := Nat.exists_eq_add_one_of_ne_zero (Nat.ne_zero_of_lt hn)
    have hpolled : t.poll.1 = none := by rw [poll_brings, Stream.poll_head, hitems, List.head?_nil]
    have hpoll : t.poll = (none, t.poll.2) := Prod.ext hpolled rfl
    rw [consumeWithin, hpoll]
    exact ⟨rfl, rfl⟩
  | failed message xs =>
    obtain ⟨n, rfl⟩ := Nat.exists_eq_add_one_of_ne_zero (Nat.ne_zero_of_lt hn)
    obtain ⟨rest, sent, hpoll, -⟩ := poll_cons hitems
    rw [consumeWithin, hpoll]
    exact ⟨rfl, rfl⟩
  | @data bytes s xs e _ ih =>
    obtain ⟨rest, sent, hpoll, hrest⟩ := poll_cons hitems
    obtain ⟨n, rfl⟩ := Nat.exists_eq_add_one_of_ne_zero (Nat.ne_zero_of_lt hn)
    obtain ⟨hbytes, herror⟩ := ih hrest (Nat.lt_of_succ_lt_succ hn)
    rw [consumeWithin, hpoll]
    exact ⟨congrArg (bytes ++ ·) hbytes, herror⟩
  | trailers _ ih | pending _ ih =>
    obtain ⟨rest, sent, hpoll, hrest⟩ := poll_cons hitems
    obtain ⟨n, rfl⟩ := Nat.exists_eq_add_one_of_ne_zero (Nat.ne_zero_of_lt hn)
    rw [consumeWithin, hpoll]
    exact ih hrest (Nat.lt_of_succ_lt_succ hn)

end Tee
end Http

namespace Service

/-- Sends what a poll has completed, if anything. -/
def sendAny (s : Service) : Option Entry → Service
  | some e => (s.send e).1
  | none => s

/-- Polls a body once before each of some events, which do something to the service, and then drops
it: the service after all of it, and what the polls have brought. -/
def pollAmid (s : Service) (t : Http.Tee) :
    List (Service → Service) → Service × List (Option Http.Item)
  | [] => (s.sendAny t.drop, [])
  | event :: events =>
    let (polled, t, sent) := t.poll
    let (s, brought) := (event (s.sendAny sent)).pollAmid t events
    (s, polled :: brought)

/-- The polls bring the items of the body inside, one after the other, and then nothing. -/
lemma pollAmid_brings (s : Service) (t : Http.Tee) (events : List (Service → Service)) :
    (s.pollAmid t events).2 = (List.range events.length).map (t.inner.toItems[·]?) := by
  induction events generalizing s t with
  | nil => rfl
  | cons event events ih =>
    rw [List.length_cons, Http.Stream.items_succ, ← Http.Tee.poll_brings, ← Http.Tee.poll_inner]
    exact congrArg _ (ih _ t.poll.2.1)

lemma reading_read (s : Service) (t : Http.Tee) (limit : Option Nat) :
    (s.read t limit).2 = ((Http.Tee.plain t.inner).consume limit).1 := by
  have hinner : t.inner = (Http.Tee.plain t.inner).inner := rfl
  exact Http.Tee.reading_of_inner hinner limit t.pollBound

end Service

namespace Http

/-- With the audit layer a handler gets a body of the same content, however long, and the client
gets what the handler then answers: the same status, header fields, items and errors in the same
order, whatever the service is like and whatever happens to it between two polls, the same reading
where it reads only some of the body, and all of its content where it reads to the end. -/
theorem audit_layer_is_transparent {α : Type} (handler : Request → Response × α) (now : Instant)
    (r : Request) :
    let (reply, told) := audited handler now r
    ∃ body : Stream, body.SameContent r.body ∧
      let (response, told') := handler { r with body }
      told = told' ∧ reply.status = response.status ∧ reply.headers = response.headers ∧
        reply.body.inner = response.body ∧
        ∀ s : Service,
          (∀ events, (s.pollAmid reply.body events).2 =
            (List.range events.length).map (response.body.toItems[·]?)) ∧
          (∀ limit, (s.read reply.body limit).2 = ((Tee.plain response.body).consume limit).1) ∧
          ∀ bytes ending, Stream.Content response.body.toItems bytes ending →
            (s.read reply.body none).2.chunks.flatten = bytes ∧
              (s.read reply.body none).2.error = ending := by
  obtain ⟨body, hcontent, htold, hstatus, hheaders, hinner⟩ := audited_answer handler now r
  rcases hreply : audited handler now r with ⟨reply, told⟩
  rw [hreply] at htold hstatus hheaders hinner
  refine ⟨body, hcontent, ?_⟩
  rcases hanswer : handler { r with body } with ⟨response, told'⟩
  rw [hanswer] at htold hstatus hheaders hinner
  refine ⟨htold, hstatus, hheaders, hinner, fun s => ⟨fun events => ?_, fun limit => ?_,
    fun bytes ending h => ?_⟩⟩
  · rw [Service.pollAmid_brings, hinner]
  · rw [Service.reading_read, hinner]
  · rw [← hinner] at h
    exact Tee.reading_content h rfl (Nat.lt_succ_self _)

/-- A body that is sent back brings the octets that have been sent, up to the error that has cut it
short, though its data comes in other pieces. -/
theorem echo_brings_content :
    let r : Request := ⟨⟨"POST"⟩, ⟨"/app", none⟩, [], none, none,
      .items [.data [0x61, 0x62], .pending, .trailers, .data [0x63], .error "reset", .data [0x64]]⟩
    let reply := (audited (fun r => (⟨200, [], none, r.body⟩, ())) ⟨0, 0⟩ r).1
    reply.status = 200 ∧ reply.body.entry.isSome = true ∧
      Stream.Content reply.body.inner.toItems [0x61, 0x62, 0x63] (some "reset") ∧
      ∀ s : Service, (s.read reply.body none).2.chunks.flatten = [0x61, 0x62, 0x63] ∧
        (s.read reply.body none).2.error = some "reset" := by
  intro r reply
  have hsent : Stream.Content r.body.toItems [0x61, 0x62, 0x63] (some "reset") :=
    .data (.pending (.trailers (.data (.failed "reset" _))))
  obtain ⟨body, ⟨bytes, ending, hbody, hcontent⟩, -, hstatus, -, hinner, hread⟩ :=
    audit_layer_is_transparent (fun r => (⟨200, [], none, r.body⟩, ())) ⟨0, 0⟩ r
  obtain ⟨rfl, rfl⟩ := hcontent.unique hsent
  refine ⟨hstatus, rfl, ?_, fun s => (hread s).2.2 _ _ hbody⟩
  rw [show reply.body.inner = body from hinner]
  exact hbody

end Http
end AuditTrail
