import Mathlib.Data.List.Forall2
import Mathlib.Data.Nat.Digits.Defs
import Mathlib.Tactic.IntervalCases

namespace Text

-- `char::to_digit`: the digits of every radix up to 36, letters in either case.
def toDigit (radix : Nat) (c : Char) : Option Nat :=
  if '0' ≤ c ∧ c ≤ '9' then Option.guard (· < radix) (c.toNat - '0'.toNat)
  else if 'a' ≤ c ∧ c ≤ 'z' then Option.guard (· < radix) (c.toNat - 'a'.toNat + 10)
  else if 'A' ≤ c ∧ c ≤ 'Z' then Option.guard (· < radix) (c.toNat - 'A'.toNat + 10)
  else none

-- One digit after the other, with the two checked operations of the loop.
def accumulate (limit radix : Nat) : Nat → List Char → Option Nat
  | result,[] => some result
  | result,c :: rest =>
    match toDigit radix c with
    | none => none
    | some digit =>
      if result * radix ≤ limit ∧ result * radix + digit ≤ limit then
        accumulate limit radix (result * radix + digit) rest
      else none

def unsigned : List Char → List Char
  | '+' :: digits => digits
  | text => text

def Signed (text : List Char) : Prop := text.head? = some '+'

-- `from_str_radix` of an unsigned type that ends at `limit`: one `+` may stand in
-- front, and neither the empty text nor the sign alone is a number.
def fromStrRadix (limit radix : Nat) (text : List Char) : Option Nat :=
  if (unsigned text).isEmpty then none else accumulate limit radix 0 (unsigned text)

-- A text that is a number: digits only, at least one, most significant first.
def Spells (radix : Nat) (text : List Char) (n : Nat) : Prop :=
  text ≠ [] ∧ ∃ digits : List Nat, text.map (toDigit radix) = digits.map some ∧ Nat.ofDigits radix digits.reverse = n

def Numeral (limit radix : Nat) (text : List Char) : Prop := ∃ n, Spells radix text n ∧ n ≤ limit

theorem ofDigits_reverse_snoc (radix digit : Nat) (digits : List Nat) :
    Nat.ofDigits radix (digits ++ [digit]).reverse = Nat.ofDigits radix digits.reverse * radix + digit := by
  rw [List.reverse_append,List.reverse_singleton,List.singleton_append,Nat.ofDigits_cons]
  ring

theorem spells_digit (digit : toDigit radix c = some d) : Spells radix [c] d :=
  ⟨by simp,[d],by simp [digit],by simp⟩

theorem Spells.snoc (spells : Spells radix text n) (digit : toDigit radix c = some d) :
    Spells radix (text ++ [c]) (n * radix + d) := by
  obtain ⟨_,digits,read,value⟩ := spells
  exact ⟨by simp,digits ++ [d],by simp [read,digit],by rw [ofDigits_reverse_snoc,value]⟩

theorem Spells.functional (left : Spells radix text n) (right : Spells radix text m) : n = m := by
  obtain ⟨_,digits,read,value⟩ := left
  obtain ⟨_,others,same,equal⟩ := right
  have digitsEq : digits = others := List.map_inj_right (fun _ _ => Option.some.inj) |>.mp (read.symm.trans same)
  rw [← value,← equal,digitsEq]

theorem Spells.digit (spells : Spells radix text n) (member : c ∈ text) : ∃ d, toDigit radix c = some d := by
  obtain ⟨_,digits,read,_⟩ := spells
  have image : toDigit radix c ∈ text.map (toDigit radix) := List.mem_map_of_mem member
  rw [read] at image
  obtain ⟨d,_,equal⟩ := List.mem_map.mp image
  exact ⟨d,equal.symm⟩

theorem map_toDigit_cons : (c :: rest).map (toDigit radix) = digits.map some ↔
    ∃ d others, digits = d :: others ∧ toDigit radix c = some d ∧ rest.map (toDigit radix) = others.map some := by
  cases digits with
  | nil => simp
  | cons first later =>
    simp only [List.map_cons,List.cons.injEq]
    constructor
    · intro read
      exact ⟨first,later,⟨rfl,rfl⟩,read⟩
    · intro read
      obtain ⟨d,others,⟨same,equal⟩,digit,read⟩ := read
      subst same equal
      exact ⟨digit,read⟩

theorem value_cons (radix result d : Nat) (others : List Nat) :
    result * radix ^ (d :: others).length + Nat.ofDigits radix (d :: others).reverse =
      (result * radix + d) * radix ^ others.length + Nat.ofDigits radix others.reverse := by
  rw [Nat.ofDigits_reverse_cons,List.length_cons]
  ring

-- The loop computes the value of the digits and fails only on a character that
-- is none or on a value that is too large.
theorem accumulate_iff (positive : 0 < radix) (small : result ≤ limit) : accumulate limit radix result text = some n ↔
    n ≤ limit ∧ ∃ digits : List Nat, text.map (toDigit radix) = digits.map some ∧
      n = result * radix ^ digits.length + Nat.ofDigits radix digits.reverse := by
  induction text generalizing result with
  | nil =>
    simp only [accumulate,Option.some.injEq,List.map_nil]
    constructor
    · intro same
      subst same
      exact ⟨small,[],rfl,by simp⟩
    · intro read
      obtain ⟨_,digits,none,value⟩ := read
      have empty : digits = [] := by simpa using none.symm
      subst empty
      simpa using value.symm
  | cons c rest ih =>
    simp only [accumulate,map_toDigit_cons]
    cases digit : toDigit radix c with
    | none => simp
    | some d =>
      simp only
      constructor
      · intro answered
        split at answered
        · rename_i fits
          obtain ⟨within,digits,read,value⟩ := (ih fits.2).mp answered
          exact ⟨within,d :: digits,⟨d,digits,rfl,rfl,read⟩,by rw [value,value_cons]⟩
        · cases answered
      · intro read
        obtain ⟨within,_,⟨first,others,rfl,same,read⟩,value⟩ := read
        cases same
        rw [value_cons] at value
        -- The value so far is part of the whole, which fits.
        have whole : result * radix + d ≤ (result * radix + d) * radix ^ others.length :=
          Nat.le_mul_of_pos_right _ (Nat.pow_pos positive)
        rw [if_pos (by omega)]
        exact (ih (by omega)).mpr ⟨within,others,read,value⟩

theorem toDigit_plus (radix : Nat) : toDigit radix '+' = none := by
  simp [toDigit]

theorem toDigit_slash (radix : Nat) : toDigit radix '/' = none := by
  simp [toDigit]

-- What `from_str_radix` takes: a numeral within the type, after one sign at most.
theorem fromStrRadix_iff (positive : 0 < radix) :
    fromStrRadix limit radix text = some n ↔ Spells radix (unsigned text) n ∧ n ≤ limit := by
  unfold fromStrRadix
  split
  · rename_i none
    simp [Spells,List.isEmpty_iff.mp none]
  · rename_i nonempty
    have some : unsigned text ≠ [] := by simpa using nonempty
    rw [accumulate_iff positive (Nat.zero_le _)]
    constructor
    · intro read
      obtain ⟨within,digits,read,value⟩ := read
      exact ⟨⟨some,digits,read,by simpa using value.symm⟩,within⟩
    · intro read
      obtain ⟨⟨_,digits,read,value⟩,within⟩ := read
      exact ⟨within,digits,read,by simpa using value.symm⟩

theorem unsigned_eq (plain : ¬Signed text) : unsigned text = text := by
  unfold unsigned
  split
  · exact absurd rfl plain
  · rfl

theorem Spells.not_signed (spells : Spells radix text n) : ¬Signed text := by
  intro signed
  obtain ⟨d,digit⟩ := spells.digit (List.mem_of_mem_head? signed)
  rw [toDigit_plus] at digit
  cases digit

-- The digits core writes are read back, in either case and after any zeros.
theorem toDigit_digitChar (small : d < 16) (below : d < radix) : toDigit radix d.digitChar = some d := by
  interval_cases d <;> simp [toDigit,Nat.digitChar,Option.guard,below]

theorem spells_toDigits (base : 1 < radix) (small : radix ≤ 16) (n : Nat) : Spells radix (Nat.toDigits radix n) n := by
  induction n using Nat.strongRecOn with
  | ind n ih =>
    by_cases single : n < radix
    · rw [Nat.toDigits_of_lt_base single]
      exact spells_digit (toDigit_digitChar (by omega) single)
    · have below : n % radix < radix := Nat.mod_lt n (by omega)
      have front := ih (n / radix) (Nat.div_lt_self (by omega) base)
      have value : n / radix * radix + n % radix = n := Nat.div_add_mod' n radix
      rw [Nat.toDigits_of_base_le base (by omega)]
      have whole := front.snoc (toDigit_digitChar (by omega) below)
      rwa [value] at whole

theorem Spells.zeros (spells : Spells radix text n) (positive : 0 < radix) (count : Nat) :
    Spells radix (List.replicate count '0' ++ text) n := by
  obtain ⟨some,digits,read,value⟩ := spells
  have zero : toDigit radix '0' = Option.some 0 := by simp [toDigit,Option.guard,positive]
  refine ⟨by simp [some],List.replicate count 0 ++ digits,by simp [read,zero],?_⟩
  rw [List.reverse_append,List.reverse_replicate,Nat.ofDigits_append_replicate_zero,value]

theorem toDigit_toLower (radix : Nat) (c : Char) : toDigit radix c.toLower = toDigit radix c := by
  by_cases upper : c.val ≥ 'A'.val ∧ c.val ≤ 'Z'.val
  · have above : 65 ≤ c.toNat := UInt32.le_iff_toNat_le.mp upper.1
    have below : c.toNat ≤ 90 := UInt32.le_iff_toNat_le.mp upper.2
    have same : c = Char.ofNat c.toNat := (Char.ofNat_toNat c).symm
    generalize c.toNat = code at above below same
    subst same
    interval_cases code <;> rfl
  · have same : c.toLower = c := dif_neg upper
    rw [same]

theorem Spells.of_toLower (spells : Spells radix (text.map Char.toLower) n) : Spells radix text n := by
  obtain ⟨some,digits,read,value⟩ := spells
  refine ⟨by simpa using some,digits,?_,value⟩
  rw [← read,List.map_map]
  apply List.map_congr_left
  intro c _
  exact (toDigit_toLower radix c).symm

-- What a text is read as, when `ofNat` makes the value of the type.
def Reads (limit radix : Nat) (ofNat : Nat → α) (text : List Char) (v : α) : Prop :=
  ∃ n, Spells radix (unsigned text) n ∧ n ≤ limit ∧ ofNat n = v

theorem reads_of_spells {ofNat : Nat → α} (spells : Spells radix text n) (within : n ≤ limit) (made : ofNat n = v) :
    Reads limit radix ofNat text v := by
  refine ⟨n,?_,within,made⟩
  rwa [unsigned_eq spells.not_signed]

-- No foreign character stands in a number, so separated numbers fall apart in one
-- way only.
theorem Numeral.absent (numeral : Numeral limit radix (unsigned text)) (foreign : toDigit radix c = none)
    (other : c ≠ '+') : c ∉ text := by
  obtain ⟨n,spells,_⟩ := numeral
  intro member
  have inside : c ∈ unsigned text := by
    unfold unsigned
    split
    · exact (List.mem_cons.mp member).resolve_left other
    · exact member
  obtain ⟨d,digit⟩ := spells.digit inside
  rw [foreign] at digit
  cases digit

theorem reads_numbers {ofNat : Nat → α} (all : List.Forall₂ (Reads limit radix ofNat) parts values) :
    ∀ part ∈ parts, Numeral limit radix (unsigned part) := by
  induction all with
  | nil => intro part member; cases member
  | cons first _ ih =>
    intro part member
    rcases List.mem_cons.mp member with rfl | later
    · obtain ⟨n,spells,within,_⟩ := first
      exact ⟨n,spells,within⟩
    · exact ih part later

theorem numbers_read (ofNat : Nat → α) (numbers : ∀ part ∈ parts, Numeral limit radix (unsigned part)) :
    ∃ values, List.Forall₂ (Reads limit radix ofNat) parts values := by
  induction parts with
  | nil => exact ⟨[],.nil⟩
  | cons part rest ih =>
    obtain ⟨n,spells,within⟩ := numbers part List.mem_cons_self
    obtain ⟨values,all⟩ := ih (fun other member => numbers other (List.mem_cons_of_mem part member))
    exact ⟨ofNat n :: values,.cons ⟨n,spells,within,rfl⟩ all⟩

-- `str::split_once`: at the first separator.
def splitOnce [DecidableEq α] (sep : α) : List α → Option (List α × List α)
  | [] => none
  | x :: rest => if x = sep then some ([],rest) else (splitOnce sep rest).map (fun (before,after) => (x :: before,after))

theorem splitOnce_iff [DecidableEq α] {sep : α} :
    splitOnce sep text = some (before,after) ↔ text = before ++ sep :: after ∧ sep ∉ before := by
  induction text generalizing before with
  | nil => simp [splitOnce]
  | cons x rest ih =>
    by_cases same : x = sep
    · subst same
      cases before with
      | nil => simp [splitOnce]
      | cons y before =>
        simp only [splitOnce,if_true,Option.some.injEq,Prod.mk.injEq,List.cons_append,List.cons.injEq,List.mem_cons,not_or]
        constructor
        · intro other; cases other.1
        · intro other; exact absurd other.1.1 other.2.1
    · cases before with
      | nil => simp [splitOnce,same]
      | cons y before =>
        have different : sep ≠ x := fun equal => same equal.symm
        simp only [splitOnce,if_neg same,Option.map_eq_some_iff,Prod.exists,Prod.mk.injEq,List.cons.injEq,
          List.cons_append,List.mem_cons,not_or]
        constructor
        · intro split
          obtain ⟨front,back,found,⟨first,others⟩,last⟩ := split
          subst first others last
          obtain ⟨equal,absent⟩ := ih.mp found
          exact ⟨⟨rfl,equal⟩,different,absent⟩
        · intro split
          obtain ⟨⟨first,equal⟩,_,absent⟩ := split
          exact ⟨before,after,ih.mpr ⟨equal,absent⟩,⟨first,rfl⟩,rfl⟩

theorem mapM_ok {parse : α → Except ε β} {parts : List α} :
    List.mapM parse parts = .ok values ↔ List.Forall₂ (fun part v => parse part = .ok v) parts values := by
  induction parts generalizing values with
  | nil =>
    rw [List.mapM_nil]
    constructor
    · intro same; cases same; exact .nil
    · intro none; cases none; rfl
  | cons part rest ih =>
    rw [List.mapM_cons]
    constructor
    · intro read
      cases first : parse part with
      | error e => rw [first] at read; cases read
      | ok v =>
        cases others : List.mapM parse rest with
        | error e => rw [first,others] at read; cases read
        | ok vs =>
          rw [first,others] at read
          cases read
          exact .cons first (ih.mp others)
    · intro read
      cases read with
      | cons first others =>
        rw [first,ih.mpr others]
        rfl

theorem mem_intercalate {sep c : α} {parts : List (List α)} (member : c ∈ [sep].intercalate parts) :
    c = sep ∨ ∃ part ∈ parts, c ∈ part := by
  induction parts with
  | nil => simp at member
  | cons part rest ih =>
    by_cases last : rest = []
    · subst last
      exact .inr ⟨part,by simp,by simpa using member⟩
    · rw [List.intercalate_cons_of_ne_nil last,List.mem_append,List.mem_append,List.mem_singleton] at member
      rcases member with (inside | here) | later
      · exact .inr ⟨part,by simp,inside⟩
      · exact .inl here
      · rcases ih later with here | ⟨other,found,inside⟩
        · exact .inl here
        · exact .inr ⟨other,by simp [found],inside⟩

end Text
