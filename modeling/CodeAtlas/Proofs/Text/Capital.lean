import CodeAtlas.Text.Lower

set_option autoImplicit false

/-! Capitals: a text in lower case has none, and a text that has none is its own lower case. -/

namespace CodeAtlas.Text

def capitalRuns : List (Nat × Nat × Nat × Int) :=
  (65, 90, 1, 32) :: lowerRuns

def inRun (code : Nat) : Nat × Nat × Nat × Int → Bool
  | (low, high, step, _) => low ≤ code && code ≤ high && (code - low) % step == 0

def isCapital (c : Char) : Bool :=
  capitalRuns.any (inRun c.toNat)

theorem inRun_iff (code low high step : Nat) (distance : Int) :
    inRun code (low, high, step, distance) = true ↔
      low ≤ code ∧ code ≤ high ∧ (code - low) % step = 0 := by
  simp [inRun, and_assoc]

theorem lowerRun?_eq (code : Nat) : lowerRun? code = lowerRuns.find? (inRun code) :=
  rfl

theorem lowerRun?_ascii (code : Nat) (ascii : code < 128) : lowerRun? code = none := by
  have above : ∀ run ∈ lowerRuns, 128 ≤ run.1 := by decide +kernel
  rw [lowerRun?_eq, List.find?_eq_none]
  intro (low, high, step, distance) member inside
  have start : 128 ≤ low := above _ member
  obtain ⟨behind, -, -⟩ := (inRun_iff ..).mp inside
  omega

-- The lower case of ASCII is that of one more run.
theorem lowerChar_eq (c : Char) :
    lowerChar c = match capitalRuns.find? (inRun c.toNat) with
      | some (_, _, _, distance) => Char.ofNat (c.toNat + distance).toNat
      | none => c := by
  have letter : ('A' ≤ c ∧ c ≤ 'Z') ↔ inRun c.toNat (65, 90, 1, 32) = true := by
    rw [inRun_iff]
    simp only [Char.le_def, UInt32.le_iff_toNat_le, Nat.mod_one, and_true]
    rfl
  by_cases inside : inRun c.toNat (65, 90, 1, 32) = true
  · have ascii : c.toNat < 128 := by
      obtain ⟨-, behind, -⟩ := (inRun_iff ..).mp inside
      omega
    have shift : ((c.toNat : Int) + 32).toNat = c.toNat + 32 := by omega
    simp [lowerChar, capitalRuns, ascii, letter.mpr inside, inside, shift]
  · have plain : ('A' ≤ c && c ≤ 'Z') = false := by simpa using mt letter.mp inside
    simp only [capitalRuns, List.find?_cons_of_neg inside, ← lowerRun?_eq]
    by_cases ascii : c.toNat < 128
    · simp [lowerChar, ascii, plain, lowerRun?_ascii _ ascii]
    · exact if_neg ascii

/-! ### Runs and their images

Whether an image is clear of all capitals is asked of runs by their ends and steps, and not of one code
point after the other. -/

/-- Whether the code points from `first` to `last`, `step` apart, all lie outside of a run. -/
def missesRun (first last step : Nat) : Nat × Nat × Nat × Int → Bool
  | (low, high, gap, _) =>
    Nat.blt high first || Nat.blt last low ||
      (Nat.beq (step % gap) 0 || Nat.beq first last) && Nat.ble low first &&
        Nat.blt 0 ((first - low) % gap)

theorem not_inRun_of_misses {first last step code : Nat} {run : Nat × Nat × Nat × Int}
    (misses : missesRun first last step run = true) (lower : first ≤ code) (upper : code ≤ last)
    (stepped : (code - first) % step = 0) : inRun code run = false := by
  obtain ⟨low, high, gap, distance⟩ := run
  rw [Bool.eq_false_iff]
  intro inside
  obtain ⟨from_low, to_high, apart⟩ := (inRun_iff ..).mp inside
  simp only [missesRun, Bool.or_eq_true, Bool.and_eq_true, Nat.blt_eq, Nat.ble_eq, Nat.beq_eq]
    at misses
  obtain (before | behind) | ⟨⟨even, within⟩, between⟩ := misses
  · omega
  · omega
  · have split : code - low = (first - low) + (code - first) := by omega
    have same : (code - first) % gap = 0 := by
      obtain even | alone := even
      · exact Nat.mod_eq_zero_of_dvd
          (Nat.dvd_trans (Nat.dvd_of_mod_eq_zero even) (Nat.dvd_of_mod_eq_zero stepped))
      · have here : code - first = 0 := by omega
        simp [here]
    rw [split, Nat.add_mod, same, Nat.add_zero, Nat.mod_mod] at apart
    omega

def imageMisses : Nat × Nat × Nat × Int → Bool
  | (low, high, step, distance) =>
    0 ≤ low + distance &&
      capitalRuns.all (missesRun (low + distance).toNat (high + distance).toNat step)

theorem imageMisses_of_mem : ∀ run ∈ capitalRuns, imageMisses run = true := by
  decide +kernel

theorem not_capital_lowerChar (c : Char) : isCapital (lowerChar c) = false := by
  rw [lowerChar_eq]
  cases found : capitalRuns.find? (inRun c.toNat) with
  | none =>
    rw [isCapital, List.any_eq_false]
    exact List.find?_eq_none.mp found
  | some run =>
    obtain ⟨low, high, step, distance⟩ := run
    have clear := imageMisses_of_mem _ (List.mem_of_find?_eq_some found)
    simp only [imageMisses, Bool.and_eq_true, decide_eq_true_eq, List.all_eq_true] at clear
    obtain ⟨positive, misses⟩ := clear
    obtain ⟨lower, upper, stepped⟩ := (inRun_iff ..).mp (List.find?_some found)
    by_cases valid : (c.toNat + distance).toNat.isValidChar
    · have image : (Char.ofNat (c.toNat + distance).toNat).toNat = (c.toNat + distance).toNat := by
        rw [Char.ofNat, dif_pos valid]
        rfl
      rw [isCapital, List.any_eq_false]
      intro run member
      rw [image, Bool.not_eq_true]
      apply not_inRun_of_misses (misses run member)
      · omega
      · omega
      · have moved : (c.toNat + distance).toNat - (low + distance).toNat = c.toNat - low := by omega
        rw [moved, stepped]
    -- A number that is no code point stands for the null character, which is no capital.
    · have image : Char.ofNat (c.toNat + distance).toNat = '\x00' := by
        rw [Char.ofNat, dif_neg valid]
        rfl
      change isCapital (Char.ofNat (c.toNat + distance).toNat) = false
      rw [image]
      decide +kernel

/-! ### Texts -/

theorem not_capital_lowerAt {before after : List Char} {c d : Char}
    (member : d ∈ lowerAt before c after) : isCapital d = false := by
  unfold lowerAt at member
  split at member
  · split at member
    all_goals
      rw [List.mem_singleton] at member
      subst member
      decide +kernel
  · split at member
    · simp only [List.mem_cons, List.not_mem_nil, or_false] at member
      obtain rfl | rfl := member
      all_goals decide +kernel
    · rw [List.mem_singleton] at member
      rw [member]
      exact not_capital_lowerChar c

theorem not_capital_lowerFrom {before text : List Char} {d : Char}
    (member : d ∈ lowerFrom before text) : isCapital d = false := by
  induction text generalizing before with
  | nil => simp [lowerFrom] at member
  | cons c after ih =>
    rw [lowerFrom, List.mem_append] at member
    obtain here | later := member
    · exact not_capital_lowerAt here
    · exact ih later

theorem not_capital_lowerChars {text : List Char} {c : Char} (member : c ∈ lowerChars text) :
    isCapital c = false :=
  not_capital_lowerFrom member

theorem lowerChars_eq_nil (text : List Char) : lowerChars text = [] ↔ text = [] := by
  cases text with
  | nil => simp [lowerChars, lowerFrom]
  | cons c after =>
    have some_case : lowerAt [] c after ≠ [] := by
      unfold lowerAt
      split
      · simp
      · split <;> simp
    simp [lowerChars, lowerFrom, some_case]

theorem lowerChar_of_not_capital {c : Char} (plain : isCapital c = false) : lowerChar c = c := by
  rw [lowerChar_eq, List.find?_eq_none.mpr (List.any_eq_false.mp plain)]

theorem lowerAt_of_not_capital {c : Char} (plain : isCapital c = false) (before after : List Char) :
    lowerAt before c after = [c] := by
  have sigma : c ≠ '\u03a3' := by
    rintro rfl
    exact absurd plain (by decide +kernel)
  have dotted : c ≠ '\u0130' := by
    rintro rfl
    exact absurd plain (by decide +kernel)
  simp [lowerAt, sigma, dotted, lowerChar_of_not_capital plain]

theorem lowerFrom_append (before front rest : List Char) :
    ∃ lowered, lowerFrom before (front ++ rest) =
      lowered ++ lowerFrom (front.reverse ++ before) rest := by
  induction front generalizing before with
  | nil => exact ⟨[], rfl⟩
  | cons c front ih =>
    obtain ⟨lowered, split⟩ := ih (c :: before)
    refine ⟨lowerAt before c (front ++ rest) ++ lowered, ?_⟩
    rw [List.cons_append, lowerFrom, split, List.reverse_cons]
    simp only [List.append_assoc, List.singleton_append]

/-- A part without capitals stays as it is, whatever stands around it. -/
theorem lowerFrom_plain_append (before rest : List Char) {plain : List Char}
    (uncapital : ∀ c ∈ plain, isCapital c = false) :
    lowerFrom before (plain ++ rest) = plain ++ lowerFrom (plain.reverse ++ before) rest := by
  induction plain generalizing before with
  | nil => rfl
  | cons c others ih =>
    have first := uncapital c List.mem_cons_self
    have later := ih (c :: before) fun d member => uncapital d (List.mem_cons_of_mem c member)
    rw [List.cons_append, lowerFrom, lowerAt_of_not_capital first, later, List.reverse_cons]
    simp only [List.append_assoc, List.cons_append, List.nil_append]

theorem lowerFrom_of_not_capital (before : List Char) {text : List Char}
    (plain : ∀ c ∈ text, isCapital c = false) : lowerFrom before text = text := by
  have whole := lowerFrom_plain_append before [] plain
  simpa only [List.append_nil, lowerFrom] using whole

theorem lowerChars_of_not_capital {text : List Char} (plain : ∀ c ∈ text, isCapital c = false) :
    lowerChars text = text :=
  lowerFrom_of_not_capital [] plain

theorem lower_toList (text : String) : (lower text).toList = lowerChars text.toList :=
  String.toList_ofList

theorem lower_eq_iff (text : String) :
    lower text = text ↔ ∀ c ∈ text.toList, isCapital c = false := by
  rw [lower]
  constructor
  · intro same c member
    rw [← same, String.toList_ofList] at member
    exact not_capital_lowerChars member
  · intro plain
    rw [lowerChars_of_not_capital plain, String.ofList_toList]

/-! ### Lengths -/

-- Only a dotted capital I becomes longer.
def loweredLength : List Char → Nat
  | [] => 0
  | c :: rest => (if c = '\u0130' then 2 else 1) + loweredLength rest

theorem lowerFrom_length (before text : List Char) :
    (lowerFrom before text).length = loweredLength text := by
  induction text generalizing before with
  | nil => rfl
  | cons c after ih =>
    have here : (lowerAt before c after).length = if c = '\u0130' then 2 else 1 := by
      unfold lowerAt
      split
      next sigma =>
        rw [sigma]
        rfl
      next => split <;> rfl
    rw [lowerFrom, List.length_append, here, ih, loweredLength]

theorem loweredLength_le {part whole : List Char} (within : part.Sublist whole) :
    loweredLength part ≤ loweredLength whole := by
  induction within with
  | slnil => exact Nat.le_refl _
  | cons c _ ih => exact Nat.le_add_left_of_le ih
  | cons_cons c _ ih => exact Nat.add_le_add_left ih _

-- A part whose lower case is as long as that of the whole text leaves nothing out.
theorem eq_of_loweredLength {part whole : List Char} (within : part.Sublist whole)
    (same : loweredLength part = loweredLength whole) : part = whole := by
  induction within with
  | slnil => rfl
  | @cons part whole c within _ =>
    have shorter := loweredLength_le within
    rw [loweredLength] at same
    split at same <;> omega
  | cons_cons c _ ih => rw [ih (Nat.add_left_cancel same)]

end CodeAtlas.Text
