import AuditTrail.Http.Capture
import Mathlib.Data.List.Basic

/-!
# The content of a body

What a reader gets of a body are the octets of its data up to its end or its first error. How they
are cut into items, and what comes between these, makes no difference to it.
-/

namespace AuditTrail.Http

/-- The data of an item. -/
def Item.bytes : Item → Bytes
  | .data bytes => bytes
  | .trailers | .error _ | .pending => []

def Item.isError : Item → Bool
  | .error _ => true
  | .data _ | .trailers | .pending => false

/-- Whether a poll shows that a body has ended or failed. -/
def closes : Option Item → Bool
  | none => true
  | some x => x.isError

/-- The data that a poll has brought. -/
def dataOf : Option Item → Bytes
  | none => []
  | some x => x.bytes

namespace Stream

/-- The octets that items bring until they end or one of them is an error, and this error. -/
inductive Content : List Item → Bytes → Option String → Prop where
  | ended : Content [] [] none
  | failed (message : String) (xs : List Item) : Content (.error message :: xs) [] (some message)
  | data {bytes s : Bytes} {xs : List Item} {e : Option String} :
      Content xs s e → Content (.data bytes :: xs) (bytes ++ s) e
  | trailers {s : Bytes} {xs : List Item} {e : Option String} :
      Content xs s e → Content (.trailers :: xs) s e
  | pending {s : Bytes} {xs : List Item} {e : Option String} :
      Content xs s e → Content (.pending :: xs) s e

/-- The data of the first `n` items of a body. -/
def delivered (n : Nat) (a : Stream) : Bytes :=
  (a.toItems.take n).flatMap Item.bytes

/-- Those of the first `n` items that come before an error. -/
def passed (n : Nat) (a : Stream) : List Item :=
  (a.toItems.take n).takeWhile (!·.isError)

/-- Bodies that bring the same octets, and after them the same end or the same error. -/
def SameContent (a b : Stream) : Prop :=
  ∃ s e, Content a.toItems s e ∧ Content b.toItems s e

variable {xs : List Item} {s s' : Bytes} {e e' : Option String}

lemma Content.unique (h : Content xs s e) (h' : Content xs s' e') : s = s' ∧ e = e' := by
  induction h generalizing s' with
  | ended =>
    cases h'
    exact ⟨rfl, rfl⟩
  | failed message xs =>
    cases h'
    exact ⟨rfl, rfl⟩
  | data _ ih =>
    cases h' with
    | data h' =>
      obtain ⟨rfl, rfl⟩ := ih h'
      exact ⟨rfl, rfl⟩
  | trailers _ ih =>
    cases h' with
    | trailers h' => exact ih h'
  | pending _ ih =>
    cases h' with
    | pending h' => exact ih h'

lemma content_readItems (xs : List Item) :
    Content xs (readItems xs).1.flatten (readItems xs).2 := by
  induction xs with
  | nil => exact .ended
  | cons x xs ih =>
    cases x with
    | data bytes => exact .data ih
    | trailers => exact .trailers ih
    | error message => exact .failed message xs
    | pending => exact .pending ih

/-- What is read of a body is its content. -/
lemma content_read (a : Stream) : Content a.toItems a.read.1.flatten a.read.2 :=
  content_readItems a.toItems

lemma read_of_content {a : Stream} (h : Content a.toItems s e) :
    a.read.1.flatten = s ∧ a.read.2 = e :=
  (content_read a).unique h

lemma SameContent.refl (a : Stream) : a.SameContent a :=
  ⟨_, _, content_read a, content_read a⟩

lemma content_chunks (chunks : List Bytes) (h : Content xs s e) :
    Content (chunks.map .data ++ xs) (chunks.flatten ++ s) e := by
  induction chunks with
  | nil => exact h
  | cons bytes chunks ih =>
    rw [List.flatten_cons, List.append_assoc]
    exact .data ih

lemma content_whole (bytes : Bytes) : Content (whole bytes).toItems bytes none := by
  cases bytes with
  | nil => exact .ended
  | cons b bytes =>
    have hone : Content [.data (b :: bytes)] ((b :: bytes) ++ []) none := .data .ended
    rwa [List.append_nil] at hone

/-- Polling takes the items of a body one after the other. -/
lemma poll_head (a : Stream) : a.poll.1 = a.toItems.head? := by
  rcases a with (_ | _) | (_ | _) <;> rfl

lemma poll_tail (a : Stream) : a.poll.2.toItems = a.toItems.tail := by
  rcases a with (_ | _) | (_ | _) <;> rfl

/-- What polls bring before `n` others have been made, and then these. -/
lemma items_succ (a : Stream) (n : Nat) :
    (List.range (n + 1)).map (a.toItems[·]?) =
      a.poll.1 :: (List.range n).map (a.poll.2.toItems[·]?) := by
  rw [List.range_succ_eq_map, List.map_cons, List.map_map, poll_head, poll_tail,
    List.head?_eq_getElem?]
  congr 2
  funext i
  exact List.getElem?_tail.symm

lemma passed_succ (a : Stream) (n : Nat) :
    a.passed (n + 1) = if closes a.poll.1 then [] else a.poll.1.toList ++ a.poll.2.passed n := by
  rw [passed, passed, poll_head, poll_tail]
  cases a.toItems with
  | nil => rfl
  | cons x xs => cases hx : x.isError <;> simp [closes, hx]

lemma delivered_succ (a : Stream) (n : Nat) :
    a.delivered (n + 1) = dataOf a.poll.1 ++ a.poll.2.delivered n := by
  rw [delivered, delivered, poll_head, poll_tail]
  cases a.toItems with
  | nil => simp [dataOf]
  | cons x xs => rfl

end Stream

/-- What is recorded of a request body are its octets, and the handler gets them with the same end
in place of the body. -/
lemma readRequestBody_content {a : Stream} {s : Bytes} {e : Option String}
    (h : Stream.Content a.toItems s e) :
    (readRequestBody a).1 = s ∧ Stream.Content (readRequestBody a).2.toItems s e := by
  obtain ⟨hbytes, hending⟩ := Stream.read_of_content h
  unfold readRequestBody
  rcases hread : a.read with ⟨chunks, _ | message⟩
  · rw [hread] at hbytes hending
    rw [← hbytes, ← hending]
    exact ⟨rfl, Stream.content_whole chunks.flatten⟩
  · rw [hread] at hbytes hending
    rw [← hbytes, ← hending]
    have hfailed := Stream.content_chunks chunks (.failed message [])
    rw [List.append_nil] at hfailed
    exact ⟨rfl, hfailed⟩

end AuditTrail.Http
