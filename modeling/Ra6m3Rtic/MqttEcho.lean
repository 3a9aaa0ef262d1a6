import Ra6m3Rtic.Lib.Utf8

namespace Ra6m3Rtic.Mqtt
open Utf8

-- `heapless::String`: a text of at most `capacity` bytes.
structure HeaplessString (capacity : Nat) where
  text : String
  bounded : text.utf8ByteSize ≤ capacity

def HeaplessString.new (capacity : Nat) : HeaplessString capacity := ⟨"",Nat.zero_le _⟩

-- What does not fit is refused as a whole and leaves the string as it was.
def HeaplessString.pushStr (s : HeaplessString capacity) (text : String) : Bool × HeaplessString capacity :=
  if fits : s.text.utf8ByteSize + text.utf8ByteSize ≤ capacity then
    (true,⟨s.text ++ text,by rw [String.utf8ByteSize_append]; exact fits⟩)
  else (false,s)

def HeaplessString.len (s : HeaplessString capacity) : Nat := s.text.utf8ByteSize

-- `pushed` says whether the two calls of `push_str`, whose results the code
-- drops, succeeded.
inductive Response where
  | publish (text : String) (pushed : Bool × Bool)
  | disconnected
  | panicked
  deriving DecidableEq

def greeting : String := "Echoing back: "
def responseCapacity : Nat := 512

def echo (payload : ByteArray) : Response :=
  match String.fromUTF8? payload with
  | none => .disconnected
  | some text =>
    let first := (HeaplessString.new responseCapacity).pushStr greeting
    let string := first.2
    let take := min text.utf8ByteSize (responseCapacity - string.len)
    match sliceTo text take with
    | none => .panicked
    | some head =>
      let second := string.pushStr head
      .publish second.2.text (first.1,second.1)

-- Whole characters, as many as the response has room for.
def room : Nat := responseCapacity - greeting.utf8ByteSize

def Exact (payload : ByteArray) : Prop :=
  match String.fromUTF8? payload with
  | none => echo payload = .disconnected
  | some text => ∃ head, LongestWithin room text head ∧ (text.utf8ByteSize ≤ room → head = text) ∧
      echo payload = .publish (greeting ++ head) (true,true)

-- The cut falls between two characters: byte 498, if there is one, starts a character.
def Unsplit (payload : ByteArray) : Prop :=
  payload.IsValidUTF8 → ∀ long : room < payload.size, (payload[room]).IsUTF8FirstByte

def greeted : HeaplessString responseCapacity := ⟨greeting,by decide⟩

theorem room_eq : greeting.utf8ByteSize + room = responseCapacity := by decide

theorem greeting_pushed : (HeaplessString.new responseCapacity).pushStr greeting = (true,greeted) := by rfl

theorem pushStr_fits {s : HeaplessString capacity} (fits : s.text.utf8ByteSize + text.utf8ByteSize ≤ capacity) :
    (s.pushStr text).1 = true ∧ (s.pushStr text).2.text = s.text ++ text := by
  simp [HeaplessString.pushStr,fits]

theorem echo_text (valid : String.fromUTF8? payload = some text) : echo payload =
    match sliceTo text (min text.utf8ByteSize room) with
    | none => .panicked
    | some head => .publish (greeted.pushStr head).2.text (true,(greeted.pushStr head).1) := by
  simp only [echo,valid,greeting_pushed]
  rfl

theorem echo_boundary (valid : String.fromUTF8? payload = some text)
    (boundary : Boundary text (min text.utf8ByteSize room)) : Exact payload := by
  obtain ⟨head,cut,before,size⟩ := sliceTo_spec boundary
  have fits : greeted.text.utf8ByteSize + head.utf8ByteSize ≤ responseCapacity := by
    have total := room_eq
    have same : greeted.text.utf8ByteSize = greeting.utf8ByteSize := rfl
    omega
  obtain ⟨pushed,whole⟩ := pushStr_fits fits
  unfold Exact
  rw [valid]
  refine ⟨head,longestWithin_of_size before size,?_,?_⟩
  · intro short
    apply prefix_eq before
    omega
  · rw [echo_text valid,cut]
    simp only [pushed,whole]
    rfl

theorem echo_inside (valid : String.fromUTF8? payload = some text)
    (inside : ¬ Boundary text (min text.utf8ByteSize room)) : echo payload = .panicked := by
  rw [echo_text valid,sliceTo_none inside]

theorem inside_not_exact (valid : String.fromUTF8? payload = some text)
    (inside : ¬ Boundary text (min text.utf8ByteSize room)) : ¬ Exact payload := by
  intro exact
  unfold Exact at exact
  rw [valid] at exact
  obtain ⟨_,_,_,published⟩ := exact
  rw [echo_inside valid inside] at published
  cases published

theorem fromUTF8_text (valid : String.fromUTF8? payload = some text) : text.toByteArray = payload := by
  unfold String.fromUTF8? at valid
  split at valid
  · cases Option.some.inj valid
    rfl
  · cases valid

-- A text that fits is cut at its end, which is always a boundary.
theorem boundary_unsplit (valid : String.fromUTF8? payload = some text) :
    Boundary text (min text.utf8ByteSize room) ↔ Unsplit payload := by
  have bytes := fromUTF8_text valid
  subst bytes
  unfold Unsplit
  have size := text.size_toByteArray
  by_cases long : room < text.toByteArray.size
  · rw [Nat.min_eq_right (by omega),boundary_inside long]
    exact ⟨fun first _ _ => first,fun first => first text.isValidUTF8 long⟩
  · rw [Nat.min_eq_left (by omega)]
    exact ⟨fun _ _ more => absurd more long,fun _ => boundary_size text⟩

theorem exact_invalid (invalid : String.fromUTF8? payload = none) : Exact payload := by
  unfold Exact
  rw [invalid]
  simp only [echo,invalid]

theorem fromUTF8_none (invalid : String.fromUTF8? payload = none) : ¬ payload.IsValidUTF8 := by
  intro valid
  simp [String.fromUTF8?,valid] at invalid

theorem echo_exact_iff_unsplit (payload : ByteArray) : Exact payload ↔ Unsplit payload := by
  cases decoded : String.fromUTF8? payload with
  | none =>
    have invalid := fromUTF8_none decoded
    exact ⟨fun _ valid => absurd valid invalid,fun _ => exact_invalid decoded⟩
  | some text =>
    rw [← boundary_unsplit decoded]
    constructor
    · intro exact
      by_contra inside
      exact inside_not_exact decoded inside exact
    · exact echo_boundary decoded

theorem fromUTF8_toByteArray (text : String) : String.fromUTF8? text.toByteArray = some text := by
  simp only [String.fromUTF8?,text.isValidUTF8,dif_pos]
  rfl

-- A character with bytes on both sides of the cut.
theorem straddle_not_exact {text : String} {c : Char} (before : text.utf8ByteSize < room)
    (after : room < text.utf8ByteSize + c.utf8Size) : ¬ Exact (text.push c).toByteArray := by
  apply inside_not_exact (fromUTF8_toByteArray _)
  rw [String.utf8ByteSize_push,Nat.min_eq_right (by omega)]
  exact inside_push before after

namespace Controls
def letters : Nat → String
  | 0 => ""
  | n+1 => (letters n).push 'a'

theorem letters_size (n : Nat) : (letters n).utf8ByteSize = n := by
  induction n with
  | zero => rfl
  | succ n ih => rw [letters,String.utf8ByteSize_push,ih]; rfl
end Controls

theorem straddling_character_panics : ¬ Exact ((Controls.letters 497).push 'é').toByteArray := by
  apply straddle_not_exact
  · rw [Controls.letters_size]; decide
  · rw [Controls.letters_size]; decide

end Ra6m3Rtic.Mqtt
