/-
# Brackets under substitution

A word that `depth` can measure has no effect on the brackets that are open
around it: the scan comes out of it with the same positions open, and only the
deepest nesting may have grown (`scan_measured`). A substitution of such words
for the symbols that are no brackets therefore carries brackets faithfully.
The scan of the new word follows that of the old one, every open bracket at the
place it has moved to (`scan_flatMap`), so a fault stays the same fault of the
bracket that has moved, and the depth grows by at most the depth of a word that
was put in (`depth_flatMap`).

Generations of a grammar are such substitutions, one after the other
(`depth_descend`, `expand_carries_brackets`).

Key definitions: `Bracket.Carried`, `Bracket.Keeps`, `Bracket.Tidy`,
`Bracket.deepest`.
Key theorems: `Bracket.scan_measured`, `Bracket.scan_flatMap`,
`Bracket.depth_flatMap`, `Bracket.depth_descend`,
`Bracket.expand_carries_brackets`.
-/
import Arbor.Bracket
import Arbor.Proofs.Grammar.Generations

namespace Arbor
namespace Bracket

/-- The same fault at another position. -/
def Fault.moveTo : Fault → Nat → Fault
  | unmatched _, i => unmatched i
  | unclosed _, i => unclosed i

/-- What becomes of the result of a scan: a fault moves, and a depth grows by
at most `D`. -/
def Carried (move : Nat → Nat) (D : Nat) : Except Fault Nat → Except Fault Nat → Prop
  | .ok d, r => ∃ e, r = .ok e ∧ d ≤ e ∧ e ≤ d + D
  | .error fault, r => r = .error (fault.moveTo (move fault.index))

theorem Carried.trans {move move' : Nat → Nat} {D D' : Nat} {a b c : Except Fault Nat}
    (h : Carried move D a b) (h' : Carried move' D' b c) :
    Carried (fun i => move' (move i)) (D + D') a c := by
  cases a with
  | ok d =>
    obtain ⟨e, rfl, hde, hed⟩ := h
    obtain ⟨f, rfl, hef, hfe⟩ := h'
    exact ⟨f, rfl, by omega, by omega⟩
  | error fault =>
    obtain rfl : b = _ := h
    obtain rfl : c = _ := h'
    cases fault <;> rfl

/-! ### Words without effect -/

/-- The scan of a word that can be measured, with other brackets open around
it. The stacks `inside` and `inside'` are those of the word itself: it is
measured with the one, and the other is as long. -/
theorem scan_measured_within (opened : List Nat) (height deepest e : Nat) (rest : Word) :
    ∀ (v : Word) (i j d : Nat) (inside inside' : List Nat), inside.length = inside'.length →
      scan i inside inside.length d v = .ok e →
      scan j (inside' ++ opened) (inside'.length + height) (max deepest (height + d)) (v ++ rest) =
        scan (j + v.length) opened height (max deepest (height + e)) rest
  | [], i, j, d, inside, inside', hlen, h => by
    cases inside with
    | cons last outer => cases h
    | nil =>
      obtain rfl : inside' = [] := List.length_eq_zero_iff.1 hlen.symm
      obtain rfl : d = e := by simpa [scan] using h
      simp
  | c :: v, i, j, d, inside, inside', hlen, h => by
    have hplace : j + (c :: v).length = j + 1 + v.length := by
      rw [List.length_cons]
      omega
    rw [hplace, List.cons_append]
    by_cases ho : c = '['
    · subst ho
      rw [scan_open] at h ⊢
      have hdeep : max (max deepest (height + d)) (inside'.length + height + 1) =
          max deepest (height + max d (inside.length + 1)) := by omega
      have hheight : inside'.length + height + 1 = (j :: inside').length + height := by
        rw [List.length_cons]
        omega
      have hopen : (i :: inside).length = (j :: inside').length := by
        rw [List.length_cons, List.length_cons, hlen]
      rw [hdeep, hheight]
      exact scan_measured_within opened height deepest e rest v _ _ _ _ (j :: inside') hopen h
    · by_cases hc : c = ']'
      · subst hc
        cases inside with
        | nil => cases h
        | cons last outer =>
          cases inside' with
          | nil => cases hlen
          | cons last' outer' =>
            rw [scan_close] at h
            rw [List.cons_append, scan_close]
            have hheight : (last' :: outer').length + height - 1 = outer'.length + height := by
              rw [List.length_cons]
              omega
            rw [hheight]
            have houter : outer.length = outer'.length := Nat.succ.inj hlen
            exact scan_measured_within opened height deepest e rest v _ _ _ _ outer' houter h
      · rw [scan_other _ _ _ _ _ _ ho hc] at h ⊢
        exact scan_measured_within opened height deepest e rest v _ _ _ _ inside' hlen h

/-- A word that can be measured leaves open what was open before it. -/
theorem scan_measured {v : Word} {e : Nat} (h : depth v = .ok e) (i : Nat) (opened : List Nat)
    (height deepest : Nat) (hheight : height ≤ deepest) (rest : Word) :
    scan i opened height deepest (v ++ rest) =
      scan (i + v.length) opened height (max deepest (height + e)) rest := by
  have hscan := scan_measured_within opened height deepest e rest v 0 i 0 [] [] rfl h
  rw [Nat.add_zero, Nat.max_eq_left hheight] at hscan
  simpa using hscan

/-! ### Substitutions -/

/-- A substitution that leaves the brackets as they are and puts in words of
depth at most `D` for other symbols. -/
structure Keeps (image : Char → Word) (D : Nat) : Prop where
  opening : image '[' = ['[']
  closing : image ']' = [']']
  other : ∀ c, c ≠ '[' → c ≠ ']' → ∃ e ≤ D, depth (image c) = .ok e

/-- Where the symbol at position `i` has moved to. -/
def moved (image : Char → Word) (w : Word) (i : Nat) : Nat := ((w.take i).flatMap image).length

theorem moved_length (image : Char → Word) (u v : Word) :
    moved image (u ++ v) u.length = (u.flatMap image).length := by
  rw [moved, List.take_left' rfl]

/-- The scan of a word and that of its substitution, after the prefix `u`. -/
theorem scan_flatMap {image : Char → Word} {D : Nat} (keeps : Keeps image D) :
    ∀ (v u : Word) (opened : List Nat) (height d d' : Nat), height ≤ d → d ≤ d' → d' ≤ d + D →
      Carried (moved image (u ++ v)) D (scan u.length opened height d v)
        (scan (u.flatMap image).length (opened.map (moved image (u ++ v))) height d'
          (v.flatMap image))
  | [], u, opened, height, d, d', _, hle, hge => by
    cases opened with
    | nil => exact ⟨d', rfl, hle, hge⟩
    | cons last outer => rfl
  | c :: v, u, opened, height, d, d', hheight, hle, hge => by
    have hplace := moved_length image u (c :: v)
    have hnext : (u ++ [c]).length = u.length + 1 := List.length_append
    have hmoved : ((u ++ [c]).flatMap image).length =
        (u.flatMap image).length + (image c).length := by
      rw [List.flatMap_append, List.length_append, List.flatMap_singleton]
    have ih := scan_flatMap keeps v (u ++ [c])
    rw [hnext, hmoved, List.append_assoc, List.singleton_append] at ih
    rw [List.flatMap_cons]
    by_cases ho : c = '['
    · subst ho
      rw [keeps.opening] at ih ⊢
      rw [scan_open, List.singleton_append, scan_open, ← hplace, ← List.map_cons]
      rw [← hplace] at ih
      exact ih _ _ _ _ (by omega) (by omega) (by omega)
    · by_cases hc : c = ']'
      · subst hc
        rw [keeps.closing] at ih ⊢
        cases opened with
        | nil => exact congrArg (fun i => Except.error (Fault.unmatched i)) hplace.symm
        | cons last outer =>
          rw [scan_close, List.singleton_append, List.map_cons, scan_close]
          exact ih _ _ _ _ (by omega) hle hge
      · obtain ⟨e, heD, he⟩ := keeps.other c ho hc
        rw [scan_other _ _ _ _ _ _ ho hc, scan_measured he _ _ _ _ (by omega)]
        exact ih _ _ _ _ hheight (by omega) (by omega)

/-- Under a substitution a fault moves with its bracket, and the depth grows by
at most that of a word put in. -/
theorem depth_flatMap {image : Char → Word} {D : Nat} (keeps : Keeps image D) (w : Word) :
    Carried (moved image w) D (depth w) (depth (w.flatMap image)) :=
  scan_flatMap keeps w [] [] 0 0 0 (Nat.le_refl 0) (Nat.le_refl 0) (Nat.zero_le _)

theorem depth_other {c : Char} (left : c ≠ '[') (right : c ≠ ']') : depth [c] = .ok 0 :=
  scan_other 0 [] 0 0 c [] left right

/-- To substitute every symbol for itself carries a result to itself. -/
theorem carried_self (w : Word) : Carried (fun i => (w.take i).length) 0 (depth w) (depth w) := by
  have keeps : Keeps (fun c => [c]) 0 :=
    ⟨rfl, rfl, fun c left right => ⟨0, Nat.le_refl 0, depth_other left right⟩⟩
  have h := depth_flatMap keeps w
  unfold moved at h
  simpa only [List.flatMap_singleton'] using h

/-! ### Generations -/

/-- Rules that have no bracket for a key, and only texts that can be measured
for replacements. -/
structure Tidy (rules : Rules) : Prop where
  keys : ∀ rule ∈ rules, Grammar.isSymbol rule.1 = true
  opening : ∀ rule ∈ rules, rule.1 ≠ .text ['[']
  closing : ∀ rule ∈ rules, rule.1 ≠ .text [']']
  values : ∀ rule ∈ rules, ∃ word d, rule.2 = .text word ∧ depth word = .ok d

/-- The depth of a replacement, if it is a text that can be measured. -/
def settingDepth : Setting → Nat
  | .text word => (depth word).toOption.getD 0
  | _ => 0

/-- The largest depth of a replacement; zero if there are no rules. -/
def deepest (rules : Rules) : Nat := (rules.map fun rule => settingDepth rule.2).foldr max 0

theorem settingDepth_le_deepest {rules : Rules} {rule : Setting × Setting} (h : rule ∈ rules) :
    settingDepth rule.2 ≤ deepest rules := by
  induction rules with
  | nil => cases h
  | cons first rest ih =>
    rw [deepest, List.map_cons, List.foldr_cons]
    rcases List.mem_cons.1 h with rfl | h
    · exact Nat.le_max_left _ _
    · exact (ih h).trans (Nat.le_max_right _ _)

section Rules

variable {rules : Rules} (tidy : Tidy rules)

include tidy

theorem Tidy.worded : Grammar.Worded rules := by
  intro rule hrule
  obtain ⟨word, -, hword, -⟩ := tidy.values rule hrule
  exact ⟨word, hword⟩

/-- One generation of tidy rules. -/
theorem Tidy.keeps : Keeps (Grammar.image rules) (deepest rules) where
  opening := by
    rcases (Grammar.image_cases tidy.worded '[').2 with h | h
    · exact h
    · exact absurd rfl (tidy.opening _ h)
  closing := by
    rcases (Grammar.image_cases tidy.worded ']').2 with h | h
    · exact h
    · exact absurd rfl (tidy.closing _ h)
  other c left right := by
    rcases (Grammar.image_cases tidy.worded c).2 with h | h
    · exact ⟨0, Nat.zero_le _, by rw [h, depth_other left right]⟩
    · obtain ⟨word, e, hword, he⟩ := tidy.values _ h
      obtain rfl : Grammar.image rules c = word := Setting.text.inj hword
      have hle := settingDepth_le_deepest h
      rw [settingDepth, he] at hle
      exact ⟨e, hle, he⟩

/-- Any number of generations of tidy rules. -/
theorem depth_descend (n : Nat) (w : Word) :
    Carried (fun i => (Grammar.descend rules n (w.take i)).length) (n * deepest rules) (depth w)
      (depth (Grammar.descend rules n w)) := by
  induction n generalizing w with
  | zero =>
    rw [Nat.zero_mul]
    exact carried_self w
  | succ n ih =>
    have hstep := (depth_flatMap tidy.keeps w).trans (ih (w.flatMap (Grammar.image rules)))
    have hmove : ∀ i, (w.flatMap (Grammar.image rules)).take (moved (Grammar.image rules) w i) =
        (w.take i).flatMap (Grammar.image rules) := fun i =>
      (List.prefix_iff_eq_take.1 (Grammar.prefix_flatMap (List.take_prefix i w) _)).symm
    simp only [hmove] at hstep
    rw [Nat.succ_mul, Nat.add_comm (n * deepest rules)]
    exact hstep

end Rules

/-- **Expansion carries brackets faithfully.** Where no bracket has a rule and
all replacements are texts that can be measured, every word can be expanded. If
its depth is `d` then that of the expansion is from `d` to `d` and the largest
depth of a replacement for each generation. If it has a bracket at fault then
the expansion has the same fault, at the length of what becomes of the symbols
in front of that bracket. -/
theorem expand_carries_brackets {rules : Rules} (tidy : Tidy rules) (start : Word) (n : Nat) :
    ∃ s, Grammar.expand start rules (.whole n) = .ok s ∧
      (∀ d, depth start = .ok d → ∃ e, depth s = .ok e ∧ d ≤ e ∧ e ≤ d + n * deepest rules) ∧
      ∀ fault, depth start = .error fault →
        ∃ before, Grammar.expand (start.take fault.index) rules (.whole n) = .ok before ∧
          depth s = .error (fault.moveTo before.length) := by
  have hexpand := Grammar.expand_eq_descend tidy.worded tidy.keys
  have hcarried := depth_descend tidy n start
  refine ⟨Grammar.descend rules n start, hexpand start n, fun d hd => ?_, fun fault hfault => ?_⟩
  · rw [hd] at hcarried
    exact hcarried
  · rw [hfault] at hcarried
    exact ⟨_, hexpand _ n, hcarried⟩

theorem tidy_mimosaRules : Tidy mimosaRules where
  keys rule hrule := by
    obtain rfl := List.mem_singleton.1 hrule
    rfl
  opening rule hrule h := by
    obtain rfl := List.mem_singleton.1 hrule
    exact absurd (Setting.text.inj h) (by decide)
  closing rule hrule h := by
    obtain rfl := List.mem_singleton.1 hrule
    exact absurd (Setting.text.inj h) (by decide)
  values rule hrule := by
    obtain rfl := List.mem_singleton.1 hrule
    exact ⟨_, 1, rfl, by decide⟩

/-- A mimosa, and one with a bracket in its way that is never closed. -/
theorem expand_carries_brackets_mimosa :
    Tidy mimosaRules ∧ depth ['F'] = .ok 0 ∧ depth ['F', '[', 'F'] = .error (.unclosed 1) ∧
    (∃ s, Grammar.expand ['F'] mimosaRules (.whole 2) = .ok s ∧
      ∃ e, depth s = .ok e ∧ 0 ≤ e ∧ e ≤ 0 + 2 * deepest mimosaRules) ∧
    ∃ s, Grammar.expand ['F', '[', 'F'] mimosaRules (.whole 2) = .ok s ∧
      ∃ before, Grammar.expand ['F'] mimosaRules (.whole 2) = .ok before ∧
        depth s = .error (.unclosed before.length) := by
  have hclosed : depth ['F'] = .ok 0 := rfl
  have hopen : depth ['F', '[', 'F'] = .error (.unclosed 1) := rfl
  obtain ⟨s, hs, hdepth, -⟩ := expand_carries_brackets tidy_mimosaRules ['F'] 2
  obtain ⟨t, ht, -, hfault⟩ := expand_carries_brackets tidy_mimosaRules ['F', '[', 'F'] 2
  exact ⟨tidy_mimosaRules, hclosed, hopen, ⟨s, hs, hdepth 0 hclosed⟩, t, ht, hfault _ hopen⟩

end Bracket
end Arbor
