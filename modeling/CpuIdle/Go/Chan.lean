/-
# Go.Chan — a buffered channel

A channel with everything that was ever sent on it, each value under its sender, and how much of it
was received; the buffer is what is left. Where each sender sends at most once, a buffer for all of
them is never full (`room_of_once`).
-/
import Mathlib.Data.Fintype.Card
import Mathlib.Data.List.Nodup

namespace CpuIdle.Go

set_option autoImplicit false

structure Chan (κ β : Type) where
  sent : List (κ × β)
  received : Nat

namespace Chan

variable {κ β : Type}

/-- `make(chan T, n)`. -/
def made : Chan κ β := ⟨[], 0⟩

def buffered (ch : Chan κ β) : List (κ × β) := ch.sent.drop ch.received

/-- A send does not block. -/
def Room (ch : Chan κ β) (capacity : Nat) : Prop := ch.buffered.length < capacity

def send (ch : Chan κ β) (sender : κ) (value : β) : Chan κ β :=
  { ch with sent := ch.sent ++ [(sender, value)] }

/-- What a receive gets; it blocks where there is nothing. -/
def first (ch : Chan κ β) : Option (κ × β) := ch.buffered.head?

def receive (ch : Chan κ β) : Chan κ β := { ch with received := ch.received + 1 }

/-- What a loop that ranges over the closed channel gets. -/
def rest (ch : Chan κ β) : List β := ch.buffered.map Prod.snd

def drained (ch : Chan κ β) : Chan κ β := { ch with received := ch.sent.length }

def senders (ch : Chan κ β) : List κ := ch.sent.map Prod.fst

/-- Each sender has sent at most once. -/
def Once (ch : Chan κ β) : Prop := ch.senders.Nodup

@[simp] theorem sent_made : (made : Chan κ β).sent = [] := rfl

@[simp] theorem received_made : (made : Chan κ β).received = 0 := rfl

@[simp] theorem sent_send (ch : Chan κ β) (sender : κ) (value : β) :
    (ch.send sender value).sent = ch.sent ++ [(sender, value)] := rfl

@[simp] theorem received_send (ch : Chan κ β) (sender : κ) (value : β) :
    (ch.send sender value).received = ch.received := rfl

@[simp] theorem sent_receive (ch : Chan κ β) : ch.receive.sent = ch.sent := rfl

@[simp] theorem received_receive (ch : Chan κ β) : ch.receive.received = ch.received + 1 := rfl

@[simp] theorem sent_drained (ch : Chan κ β) : ch.drained.sent = ch.sent := rfl

@[simp] theorem senders_send (ch : Chan κ β) (sender : κ) (value : β) :
    (ch.send sender value).senders = ch.senders ++ [sender] := by
  simp [senders]

@[simp] theorem senders_receive (ch : Chan κ β) : ch.receive.senders = ch.senders := rfl

@[simp] theorem senders_drained (ch : Chan κ β) : ch.drained.senders = ch.senders := rfl

theorem mem_senders {ch : Chan κ β} {sender : κ} :
    sender ∈ ch.senders ↔ ∃ value, (sender, value) ∈ ch.sent := by
  simp [senders]

theorem once_made : (made : Chan κ β).Once := by
  simp [Once, senders]

theorem Once.send {ch : Chan κ β} {sender : κ} (once : ch.Once) (fresh : sender ∉ ch.senders)
    (value : β) : (ch.send sender value).Once := by
  rw [Once, senders_send, ← List.concat_eq_append]
  exact List.Nodup.concat fresh once

/-- **There is room for who has not sent yet.** -/
theorem room_of_once [Fintype κ] {ch : Chan κ β} {sender : κ} (once : ch.Once)
    (fresh : sender ∉ ch.senders) : ch.Room (Fintype.card κ) := by
  have both : (sender :: ch.senders).Nodup := List.nodup_cons.mpr ⟨fresh, once⟩
  have bound := both.length_le_card
  have sent : ch.senders.length = ch.sent.length := by simp [senders]
  simp only [List.length_cons] at bound
  unfold Room buffered
  rw [List.length_drop]
  omega

/-- What a sender has sent is one thing. -/
theorem Once.unique {ch : Chan κ β} (once : ch.Once) {sender : κ} {a b : β}
    (first : (sender, a) ∈ ch.sent) (second : (sender, b) ∈ ch.sent) : a = b :=
  congrArg Prod.snd (List.inj_on_of_nodup_map once first second rfl)

theorem first_eq_some {ch : Chan κ β} {item : κ × β} :
    ch.first = some item ↔ ∃ later, ch.buffered = item :: later := by
  unfold first
  cases ch.buffered with
  | nil => simp
  | cons head rest => simp

theorem mem_of_first {ch : Chan κ β} {item : κ × β} (next : ch.first = some item) : item ∈ ch.sent := by
  obtain ⟨later, found⟩ := first_eq_some.mp next
  exact List.mem_of_mem_drop (show item ∈ ch.buffered by simp [found])

theorem first_index {ch : Chan κ β} {item : κ × β} (next : ch.first = some item) :
    ch.sent[ch.received]? = some item := by
  rw [first, buffered, List.head?_drop] at next
  exact next

theorem received_lt_of_first {ch : Chan κ β} {item : κ × β} (next : ch.first = some item) :
    ch.received < ch.sent.length :=
  (List.getElem?_eq_some_iff.mp (first_index next)).choose

theorem first_isSome {ch : Chan κ β} (behind : ch.received < ch.sent.length) :
    ∃ item, ch.first = some item := by
  cases next : ch.first with
  | some item => exact ⟨item, rfl⟩
  | none =>
      have empty : ch.buffered = [] := List.head?_eq_none_iff.mp next
      have done := List.drop_eq_nil_iff.mp empty
      omega

end Chan

end CpuIdle.Go
