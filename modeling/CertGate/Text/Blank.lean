/-!
# Blank characters and trimming

`isBlank` is the Unicode property White_Space; `trim` takes a run of any class off both ends.
The lemmas say when trimming leaves all of a text and when it leaves nothing, and that it looks at
nothing but the class.
-/

namespace CertGate.Text

/-- The characters with the Unicode property White_Space. -/
def isBlank (c : Char) : Bool :=
  ('\t' ≤ c && c ≤ '\r') || c == ' ' || c == '\u0085' || c == '\u00a0' || c == '\u1680'
    || ('\u2000' ≤ c && c ≤ '\u200a') || c == '\u2028' || c == '\u2029' || c == '\u202f'
    || c == '\u205f' || c == '\u3000'

/-- What is left of `cs` without the run of the class `p` at its end. -/
def trimEnd (p : α → Bool) (cs : List α) : List α :=
  (cs.reverse.dropWhile p).reverse

/-- What is left of `cs` without the runs of the class `p` at its two ends. -/
def trim (p : α → Bool) (cs : List α) : List α :=
  trimEnd p (cs.dropWhile p)

/-- A text without the blanks at its two ends. -/
def trimBlank (s : String) : String :=
  String.ofList (trim isBlank s.toList)

theorem dropWhile_of_forall_not {p : α → Bool} {cs : List α} (h : ∀ c ∈ cs, p c = false) :
    cs.dropWhile p = cs := by
  cases cs with
  | nil => rfl
  | cons c cs => rw [List.dropWhile_cons_of_neg (by simp [h c List.mem_cons_self])]

theorem trimEnd_of_forall_not {p : α → Bool} {cs : List α} (h : ∀ c ∈ cs, p c = false) :
    trimEnd p cs = cs := by
  rw [trimEnd, dropWhile_of_forall_not fun d hd => h d (List.mem_reverse.1 hd), List.reverse_reverse]

/-- If nothing of a text is in the class, `trim` leaves all of it. -/
theorem trim_of_forall_not {p : α → Bool} {cs : List α} (h : ∀ c ∈ cs, p c = false) :
    trim p cs = cs := by
  rw [trim, dropWhile_of_forall_not h, trimEnd_of_forall_not h]

/-- Behind a text that has nothing of the class, `trim` takes away from the end only. -/
theorem trim_append_of_forall_not {p : α → Bool} {cs : List α} (hne : cs ≠ [])
    (h : ∀ c ∈ cs, p c = false) (ds : List α) : trim p (cs ++ ds) = cs ++ trimEnd p ds := by
  have hfront : (cs ++ ds).dropWhile p = cs ++ ds := by
    rw [List.dropWhile_append, dropWhile_of_forall_not h, if_neg (by simpa using hne)]
  rw [trim, hfront, trimEnd, trimEnd, List.reverse_append, List.dropWhile_append]
  split
  · next hnone =>
    rw [List.isEmpty_iff.1 hnone, List.reverse_nil, List.append_nil]
    exact trimEnd_of_forall_not h
  · rw [List.reverse_append, List.reverse_reverse]

/-- `Trimmed p cs ds`: of the text `cs`, only characters of the class `p` are gone in `ds`, in front
and behind, and none is left at either end. -/
structure Trimmed (p : α → Bool) (cs ds : List α) : Prop where
  cut : ∃ before behind, cs = before ++ ds ++ behind ∧ (∀ c ∈ before, p c = true) ∧
    ∀ c ∈ behind, p c = true
  front : ∀ c ∈ ds.head?, p c = false
  back : ∀ c ∈ ds.getLast?, p c = false

theorem not_of_mem_head?_dropWhile {p : α → Bool} {cs : List α} {c : α}
    (h : c ∈ (cs.dropWhile p).head?) : p c = false := by
  have hhead := List.head?_dropWhile_not p cs
  rwa [Option.mem_def.1 h] at hhead

theorem of_mem_takeWhile {p : α → Bool} {cs : List α} {c : α} (h : c ∈ cs.takeWhile p) : p c = true :=
  List.all_eq_true.1 List.all_takeWhile c h

/-- What `trim` leaves is `Trimmed`. -/
theorem trimmed_trim (p : α → Bool) (cs : List α) : Trimmed p cs (trim p cs) := by
  have hend : cs.dropWhile p =
      trim p cs ++ ((cs.dropWhile p).reverse.takeWhile p).reverse := by
    rw [trim, trimEnd, ← List.reverse_append, List.takeWhile_append_dropWhile, List.reverse_reverse]
  constructor
  case cut =>
    have hcut : cs = cs.takeWhile p ++ trim p cs ++
        ((cs.dropWhile p).reverse.takeWhile p).reverse := by
      rw [List.append_assoc, ← hend, List.takeWhile_append_dropWhile]
    exact ⟨_, _, hcut, fun c hc => of_mem_takeWhile hc,
      fun c hc => of_mem_takeWhile (List.mem_reverse.1 hc)⟩
  case front =>
    intro c hc
    -- what is left starts where the text does behind its first run
    have hfront : c ∈ (cs.dropWhile p).head? := by
      rw [hend, List.head?_append, Option.mem_def.1 hc]
      rfl
    exact not_of_mem_head?_dropWhile hfront
  case back =>
    intro c hc
    rw [trim, trimEnd, List.getLast?_reverse] at hc
    exact not_of_mem_head?_dropWhile hc

/-- Every character that `trim` leaves was in the text. -/
theorem mem_of_mem_trim {p : α → Bool} {c : α} {cs : List α} (h : c ∈ trim p cs) : c ∈ cs := by
  rw [trim, trimEnd, List.mem_reverse] at h
  exact List.dropWhile_subset p (List.mem_reverse.1 (List.dropWhile_subset p h))

/-- Of a text with a character of the class in front, `trim` takes this one first. -/
theorem trim_cons_of_pos {p : α → Bool} {c : α} {cs : List α} (h : p c = true) :
    trim p (c :: cs) = trim p cs := by
  rw [trim, trim, List.dropWhile_cons_of_pos h]

theorem dropWhile_eq_nil_iff {p : α → Bool} {cs : List α} :
    cs.dropWhile p = [] ↔ ∀ c ∈ cs, p c = true := by
  induction cs with
  | nil => simp
  | cons c cs ih =>
    rw [List.dropWhile_cons, List.forall_mem_cons]
    split
    · next hc => rw [ih, and_iff_right hc]
    · next hc => exact iff_of_false (List.cons_ne_nil c cs) fun h => hc h.1

/-- `trim` leaves nothing of a text exactly if all of it is in the class. -/
theorem trim_eq_nil_iff {p : α → Bool} {cs : List α} : trim p cs = [] ↔ ∀ c ∈ cs, p c = true := by
  rw [trim, trimEnd, List.reverse_eq_nil_iff, dropWhile_eq_nil_iff]
  simp only [List.mem_reverse, ← List.all_eq_true]
  -- what the class is not true of is not dropped
  rw [List.all_eq_not_any_not, List.any_dropWhile, Bool.not_not]

theorem dropWhile_congr {p q : α → Bool} {cs : List α} (h : ∀ c ∈ cs, p c = q c) :
    cs.dropWhile p = cs.dropWhile q := by
  induction cs with
  | nil => rfl
  | cons c cs ih =>
    rw [List.dropWhile_cons, List.dropWhile_cons, h c List.mem_cons_self,
      ih fun d hd => h d (List.mem_cons_of_mem c hd)]

/-- Classes that agree on the characters of a text are trimmed alike. -/
theorem trim_congr {p q : α → Bool} {cs : List α} (h : ∀ c ∈ cs, p c = q c) :
    trim p cs = trim q cs := by
  rw [trim, trim, trimEnd, trimEnd, dropWhile_congr h]
  refine congrArg List.reverse (dropWhile_congr fun c hc => h c ?_)
  exact List.dropWhile_subset q (List.mem_reverse.1 hc)

theorem trim_map {f : α → β} {p : β → Bool} {cs : List α} :
    trim p (cs.map f) = (trim (p ∘ f) cs).map f := by
  rw [trim, trim, trimEnd, trimEnd, List.dropWhile_map, ← List.map_reverse, List.dropWhile_map,
    List.map_reverse]

end CertGate.Text
