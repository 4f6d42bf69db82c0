import TileIndex.Bus.Queues

/-!
# What waits on a queue

Every queue is first in, first out, and what happens to one queue leaves the others as they are.
-/

namespace TileIndex

/-! ## What listens bring -/

/-- The message that a listen brings. -/
def messageIn : Except TransportError (Option Message) → Option Message
  | .ok m => m
  | .error _ => none

/-- The messages that listens bring, oldest first. -/
def messagesIn (listens : List (Except TransportError (Option Message))) : List Message :=
  listens.filterMap messageIn

namespace Queues

/-! ## Addresses -/

@[simp] theorem addressedTo_nil (queue : String) : addressedTo queue [] = [] := rfl

@[simp] theorem addressedTo_append (queue : String) (l l' : List (String × Message)) :
    addressedTo queue (l ++ l') = addressedTo queue l ++ addressedTo queue l' := by
  simp [addressedTo]

@[simp] theorem addressedTo_cons_self (queue : String) (m : Message)
    (l : List (String × Message)) :
    addressedTo queue ((queue, m) :: l) = m :: addressedTo queue l := by
  simp [addressedTo]

theorem addressedTo_cons_of_ne {queue : String} {e : String × Message} (h : e.1 ≠ queue)
    (l : List (String × Message)) : addressedTo queue (e :: l) = addressedTo queue l := by
  simp [addressedTo, h]

theorem addressedTo_eq_nil {queue : String} {l : List (String × Message)}
    (h : ∀ e ∈ l, e.1 ≠ queue) : addressedTo queue l = [] := by
  -- along the messages, none of which is for the queue
  induction l with
  | nil => rfl
  | cons e l ih =>
    rw [addressedTo_cons_of_ne (h e (List.mem_cons_self ..))]
    exact ih fun x hx => h x (List.mem_cons_of_mem _ hx)

/-! ## Sending and taking -/

/-- A message that is sent waits behind the others on its queue. -/
theorem addressedTo_send (q : Queues) (queue other : String) (m : Message) :
    addressedTo queue (q.send other m).waiting =
      addressedTo queue q.waiting ++ addressedTo queue [(other, m)] :=
  addressedTo_append queue q.waiting [(other, m)]

theorem addressedTo_send_self (q : Queues) (queue : String) (m : Message) :
    addressedTo queue (q.send queue m).waiting = addressedTo queue q.waiting ++ [m] := by
  simp [send]

theorem addressedTo_send_of_ne (q : Queues) {queue other : String} (h : other ≠ queue)
    (m : Message) :
    addressedTo queue (q.send other m).waiting = addressedTo queue q.waiting := by
  rw [send, addressedTo_append, addressedTo_cons_of_ne h, addressedTo_nil, List.append_nil]

/-- Either nothing waits on a queue, or its oldest message comes out from between the others. -/
theorem pop_cases (q : Queues) (queue : String) :
    (q.pop queue = (none, q) ∧ addressedTo queue q.waiting = []) ∨
      ∃ m before after, q.waiting = before ++ (queue, m) :: after ∧
        (∀ e ∈ before, e.1 ≠ queue) ∧ q.pop queue = (some m, ⟨before ++ after, q.sent⟩) := by
  unfold pop
  cases hfind : q.waiting.find? (·.1 = queue) with
  | none =>
    refine .inl ⟨rfl, addressedTo_eq_nil fun e he => ?_⟩
    simpa using List.find?_eq_none.1 hfind e he
  | some e =>
    obtain ⟨he, before, after, hwaiting, hbefore⟩ := List.find?_eq_some_iff_append.1 hfind
    obtain ⟨other, m⟩ := e
    obtain rfl : other = queue := by simpa using he
    have hne : ∀ e ∈ before, e.1 ≠ other := by
      intro e he
      simpa using hbefore e he
    -- the first message that is found is the first that is erased
    refine .inr ⟨m, before, after, hwaiting, hne, ?_⟩
    have herase : q.waiting.eraseP (·.1 = other) = before ++ after := by
      rw [hwaiting, List.eraseP_append_right _ (by simpa using hne), List.eraseP_cons_of_pos (by simp)]
    simp only [herase]

/-- Taking from one queue leaves the others as they are. -/
theorem addressedTo_pop_of_ne (q : Queues) {queue other : String} (h : other ≠ queue) :
    addressedTo queue (q.pop other).2.waiting = addressedTo queue q.waiting := by
  rcases q.pop_cases other with ⟨hpop, -⟩ | ⟨m, before, after, hwaiting, -, hpop⟩
  · rw [hpop]
  · -- the message that comes out is not one of this queue
    rw [hpop, hwaiting, addressedTo_append, addressedTo_append, addressedTo_cons_of_ne h]

/-- What is taken from a queue was the first that waited on it. -/
theorem addressedTo_pop_self (q : Queues) (queue : String) :
    addressedTo queue q.waiting =
      (q.pop queue).1.toList ++ addressedTo queue (q.pop queue).2.waiting := by
  rcases q.pop_cases queue with ⟨hpop, hnone⟩ | ⟨m, before, after, hwaiting, hbefore, hpop⟩
  · rw [hpop, hnone]
    rfl
  · -- those before it are all for other queues
    rw [hpop, hwaiting, addressedTo_append, addressedTo_append, addressedTo_eq_nil hbefore,
      addressedTo_cons_self]
    rfl

theorem waiting_pop_subset (q : Queues) (queue : String) :
    (q.pop queue).2.waiting ⊆ q.waiting := by
  rcases q.pop_cases queue with ⟨hpop, -⟩ | ⟨m, before, after, hwaiting, -, hpop⟩
  · rw [hpop]
    exact fun _ h => h
  · rw [hpop, hwaiting]
    exact List.append_subset.2 ⟨List.subset_append_left _ _,
      fun _ h => List.mem_append_right _ (List.mem_cons_of_mem _ h)⟩

theorem mem_of_pop {q : Queues} {queue : String} {m : Message} (h : (q.pop queue).1 = some m) :
    (queue, m) ∈ q.waiting := by
  rcases q.pop_cases queue with ⟨hpop, -⟩ | ⟨m', before, after, hwaiting, -, hpop⟩
  · simp [hpop] at h
  · rw [hpop] at h
    obtain rfl := Option.some.inj h
    simp [hwaiting]

@[simp] theorem sent_pop (q : Queues) (queue : String) : (q.pop queue).2.sent = q.sent := by
  rcases q.pop_cases queue with ⟨hpop, -⟩ | ⟨m, before, after, -, -, hpop⟩
  · rw [hpop]
  · rw [hpop]

/-! ## Messages that were sent -/

theorem mem_of_mem_send {q : Queues} {queue : String} {m : Message} {e : String × Message}
    (h : e ∈ (q.send queue m).waiting ∨ e ∈ (q.send queue m).sent) :
    (e ∈ q.waiting ∨ e ∈ q.sent) ∨ e = (queue, m) := by
  -- on both lists the message is put at the end
  rcases h with h | h <;> rcases List.mem_append.1 h with h | h
  · exact .inl (.inl h)
  · exact .inr (List.mem_singleton.1 h)
  · exact .inl (.inr h)
  · exact .inr (List.mem_singleton.1 h)

/-- Taking brings nothing to the queues. -/
theorem mem_of_mem_pop {q : Queues} {queue : String} {e : String × Message}
    (h : e ∈ (q.pop queue).2.waiting ∨ e ∈ (q.pop queue).2.sent) : e ∈ q.waiting ∨ e ∈ q.sent := by
  rcases h with h | h
  · exact .inl (q.waiting_pop_subset queue h)
  · rw [sent_pop] at h
    exact .inr h

/-! ## Listening -/

/-- A listen in memory finds what is taken, and fails for nothing. -/
theorem listen_eq_pop (queue : String) (wait : UInt64) (q : Queues) :
    (transport.listen queue wait q).1.found = .ok (q.pop queue).1 ∧
      (transport.listen queue wait q).2 = (q.pop queue).2 := by
  -- a listen looks once before it would begin to wait
  rcases q.pop_cases queue with ⟨hpop, -⟩ | ⟨m, before, after, -, -, hpop⟩
  · simp [transport, hpop]
  · simp [transport, hpop, Heard.atOnce]

end Queues

end TileIndex
