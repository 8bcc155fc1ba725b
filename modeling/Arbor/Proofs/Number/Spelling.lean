/-
# What spells a whole number

`Numeral.Spells` is the grammar of a whole number in text: blanks, a sign, in
base sixteen the mark of that base, digits of any script with single underscores
between two of them, and blanks. A digit is neither a blank nor a sign nor an
underscore nor the letter of the mark, so a text can be taken apart in one way
only, and `Numeral.readInt` reads a number from exactly the texts that spell it
(`Numeral.readInt_eq_some_iff`). As every digit is less than the base, a number
is bounded by the length of its text (`Numeral.Spells.natAbs_lt`).

Key definitions: `Numeral.Digits`, `Numeral.Spells`.
Key theorems: `Numeral.digits?_eq_some_iff`, `Numeral.readInt_eq_some_iff`,
`Numeral.Spells.natAbs_lt`.
-/
import Arbor.Number.Numeral
import Mathlib.Data.List.TakeWhile
import Mathlib.Data.Nat.Digits.Defs

namespace Arbor

/-! ### Text between two ends of a kind -/

theorem dropWhile_of_head? {kind : Char → Bool} {s : List Char} {c : Char}
    (hc : s.head? = some c) (hkind : kind c = false) : s.dropWhile kind = s := by
  cases s with
  | nil => rfl
  | cons d s =>
    obtain rfl : d = c := Option.some.inj hc
    exact List.dropWhile_cons_of_neg (ne_true_of_eq_false hkind)

/-- What is trimmed off is of the kind. -/
theorem exists_trimEnds (kind : Char → Bool) (s : List Char) :
    ∃ front back, s = front ++ trimEnds kind s ++ back ∧
      (∀ c ∈ front, kind c = true) ∧ ∀ c ∈ back, kind c = true := by
  have hfront := List.takeWhile_append_dropWhile (p := kind) (l := s)
  have hback := List.takeWhile_append_dropWhile (p := kind) (l := (s.dropWhile kind).reverse)
  refine ⟨s.takeWhile kind, ((s.dropWhile kind).reverse.takeWhile kind).reverse, ?_,
    fun c hc => List.mem_takeWhile_imp hc,
    fun c hc => List.mem_takeWhile_imp (List.mem_reverse.1 hc)⟩
  rw [trimEnds, List.append_assoc, ← List.reverse_append, hback, List.reverse_reverse, hfront]

/-- A text that neither starts nor ends with the kind is what trimming leaves
of it. -/
theorem trimEnds_eq {kind : Char → Bool} {front body back : List Char} {a z : Char}
    (hfront : ∀ c ∈ front, kind c = true) (hback : ∀ c ∈ back, kind c = true)
    (ha : body.head? = some a) (hz : body.getLast? = some z) (hkinda : kind a = false)
    (hkindz : kind z = false) : trimEnds kind (front ++ body ++ back) = body := by
  have hstart : (body ++ back).head? = some a := by rw [List.head?_append, ha, Option.some_or]
  have hend : body.reverse.head? = some z := by rw [List.head?_reverse, hz]
  have hback' : ∀ c ∈ back.reverse, kind c = true := fun c hc => hback c (List.mem_reverse.1 hc)
  rw [trimEnds, List.append_assoc, List.dropWhile_append_of_pos hfront,
    dropWhile_of_head? hstart hkinda, List.reverse_append, List.dropWhile_append_of_pos hback',
    dropWhile_of_head? hend hkindz, List.reverse_reverse]

namespace Numeral

/-! ### Digits -/

/-- The blanks leave four gaps in which no character is one. -/
theorem isBlank_of_gap {c : Char} (h : (0x20 < c.toNat ∧ c.toNat < 0x85) ∨
    (0xA0 < c.toNat ∧ c.toNat < 0x1680) ∨ (0x1680 < c.toNat ∧ c.toNat < 0x2000) ∨
    0x3000 < c.toNat) : isBlank c = false := by
  simp only [isBlank, Bool.or_eq_false_iff, Bool.and_eq_false_iff, decide_eq_false_iff_not,
    beq_eq_false_iff_ne]
  omega

/-- The ten digits of a script lie in one gap. -/
theorem isBlank_of_digitValue? {c : Char} {d : Nat} (h : digitValue? c = some d) :
    isBlank c = false := by
  obtain ⟨start, found, -⟩ := Option.map_eq_some_iff.1 h
  have hstart := List.mem_of_find?_eq_some found
  have hrange := List.find?_some found
  have hgaps : ∀ first ∈ digitZeros, (0x20 < first ∧ first + 9 < 0x85) ∨
      (0xA0 < first ∧ first + 9 < 0x1680) ∨ (0x1680 < first ∧ first + 9 < 0x2000) ∨
      0x3000 < first := by decide
  have hgap := hgaps start hstart
  simp only [Bool.and_eq_true, decide_eq_true_eq] at hrange
  exact isBlank_of_gap (by omega)

theorem isBlank_of_digit? {c : Char} {d : Nat} (h : digit? c = some d) : isBlank c = false := by
  unfold digit? at h
  split at h
  · rename_i hvalue
    exact isBlank_of_digitValue? hvalue
  · have hletter : ('a' ≤ c ∧ c ≤ 'f') ∨ ('A' ≤ c ∧ c ≤ 'F') := by
      by_contra hnone
      rw [not_or] at hnone
      rw [if_neg hnone.1, if_neg hnone.2] at h
      cases h
    simp only [Char.le_def, UInt32.le_iff_toNat_le, Char.toNat_val, Char.reduceToNat] at hletter
    exact isBlank_of_gap (by omega)

/-- Digits of a base, one at least, with single underscores between two of
them, and their values. -/
inductive Digits (base : Nat) : List Char → List Nat → Prop
  | last {c : Char} {d : Nat} (value : digit? c = some d) (small : d < base) :
      Digits base [c] [d]
  | next {c : Char} {d : Nat} {s : List Char} {ds : List Nat} (value : digit? c = some d)
      (small : d < base) (rest : Digits base s ds) : Digits base (c :: s) (d :: ds)
  | apart {c : Char} {d : Nat} {s : List Char} {ds : List Nat} (value : digit? c = some d)
      (small : d < base) (rest : Digits base s ds) : Digits base (c :: '_' :: s) (d :: ds)

namespace Digits

variable {base : Nat} {s : List Char} {ds : List Nat}

theorem exists_head (h : Digits base s ds) : ∃ c d, s.head? = some c ∧ digit? c = some d := by
  cases h with
  | last value => exact ⟨_, _, rfl, value⟩
  | next value => exact ⟨_, _, rfl, value⟩
  | apart value => exact ⟨_, _, rfl, value⟩

theorem exists_last (h : Digits base s ds) : ∃ c d, s.getLast? = some c ∧ digit? c = some d := by
  induction h with
  | last value => exact ⟨_, _, rfl, value⟩
  | next _ _ _ ih =>
    obtain ⟨c, d, hc, hd⟩ := ih
    exact ⟨c, d, by rw [List.getLast?_cons, hc, Option.getD_some], hd⟩
  | apart _ _ _ ih =>
    obtain ⟨c, d, hc, hd⟩ := ih
    exact ⟨c, d, by rw [List.getLast?_cons, List.getLast?_cons, hc, Option.getD_some,
      Option.getD_some], hd⟩

theorem lt_base (h : Digits base s ds) : ∀ d ∈ ds, d < base := by
  induction h with
  | last _ small => exact List.forall_mem_singleton.2 small
  | next _ small _ ih => exact List.forall_mem_cons.2 ⟨small, ih⟩
  | apart _ small _ ih => exact List.forall_mem_cons.2 ⟨small, ih⟩

theorem length_le (h : Digits base s ds) : ds.length ≤ s.length := by
  induction h with
  | last => exact Nat.le_refl 1
  | next _ _ _ ih => exact Nat.succ_le_succ ih
  | apart _ _ _ ih => exact (Nat.succ_le_succ ih).trans (Nat.le_succ _)

end Digits

/-- A digit of the base in front of what is read after it. -/
theorem bind_digit?_eq_some {β : Type} {base : Nat} {c : Char} {after : Nat → Option β} {b : β} :
    ((digit? c).bind fun d => if d < base then after d else none) = some b ↔
      ∃ d, digit? c = some d ∧ d < base ∧ after d = some b := by
  rw [Option.bind_eq_some_iff]
  refine exists_congr fun d => and_congr_right fun _ => ?_
  by_cases hd : d < base
  · rw [if_pos hd, and_iff_right hd]
  · rw [if_neg hd]
    exact ⟨fun h => absurd h (by simp), fun h => absurd h.1 hd⟩

theorem digits?_eq_some_iff {base : Nat} {s : List Char} {ds : List Nat} :
    digits? base s = some ds ↔ Digits base s ds := by
  constructor
  · intro h
    fun_induction digits? base s generalizing ds with
    | case1 => cases h
    | case2 c =>
      obtain ⟨d, value, small, hds⟩ := bind_digit?_eq_some.1 h
      obtain rfl := Option.some.inj hds
      exact .last value small
    | case3 c rest ih =>
      obtain ⟨d, value, small, hds⟩ := bind_digit?_eq_some.1 h
      obtain ⟨others, hothers, rfl⟩ := Option.map_eq_some_iff.1 hds
      exact .apart value small (ih hothers)
    | case4 c rest _ _ ih =>
      obtain ⟨d, value, small, hds⟩ := bind_digit?_eq_some.1 h
      obtain ⟨others, hothers, rfl⟩ := Option.map_eq_some_iff.1 hds
      exact .next value small (ih hothers)
  · intro h
    induction h with
    | last value small =>
      rw [digits?]
      exact bind_digit?_eq_some.2 ⟨_, value, small, rfl⟩
    | @next c d s ds value small rest ih =>
      -- a digit follows, so neither the end nor an underscore does
      obtain ⟨first, _, hfirst, hdigit⟩ := rest.exists_head
      have hne : s = [] → False := by
        rintro rfl
        cases hfirst
      have hplain : ∀ t, s = '_' :: t → False := by
        rintro t rfl
        obtain rfl := Option.some.inj hfirst
        cases hdigit
      rw [digits?.eq_4 base c s hne hplain]
      exact bind_digit?_eq_some.2 ⟨d, value, small, Option.map_eq_some_iff.2 ⟨ds, ih, rfl⟩⟩
    | apart value small rest ih =>
      rw [digits?]
      exact bind_digit?_eq_some.2 ⟨_, value, small, Option.map_eq_some_iff.2 ⟨_, ih, rfl⟩⟩

/-! ### Signs and marks -/

/-- A sign, which may be missing, and whether it is a minus. -/
inductive Sign : List Char → Bool → Prop
  | missing : Sign [] false
  | plus : Sign ['+'] false
  | minus : Sign ['-'] true

theorem exists_unsigned (s : List Char) :
    ∃ sign, s = sign ++ (unsigned s).2 ∧ Sign sign (unsigned s).1 := by
  unfold unsigned
  split
  · exact ⟨['+'], rfl, .plus⟩
  · exact ⟨['-'], rfl, .minus⟩
  · exact ⟨[], rfl, .missing⟩

/-- A number starts with its sign or with a digit, and so with no blank. -/
theorem Sign.exists_head {sign body : List Char} {negative : Bool} {c : Char} {d : Nat}
    (h : Sign sign negative) (hc : body.head? = some c) (hd : digit? c = some d) :
    ∃ a, (sign ++ body).head? = some a ∧ isBlank a = false := by
  cases h with
  | missing => exact ⟨c, hc, isBlank_of_digit? hd⟩
  | plus => exact ⟨'+', rfl, rfl⟩
  | minus => exact ⟨'-', rfl, rfl⟩

theorem unsigned_eq {sign body : List Char} {negative : Bool} {c : Char} {d : Nat}
    (h : Sign sign negative) (hc : body.head? = some c) (hd : digit? c = some d) :
    unsigned (sign ++ body) = (negative, body) := by
  cases h with
  | plus => rfl
  | minus => rfl
  | missing =>
    rw [List.nil_append]
    unfold unsigned
    -- a digit in front is no sign
    split
    · obtain rfl := Option.some.inj hc
      cases hd
    · obtain rfl := Option.some.inj hc
      cases hd
    · rfl

/-- The mark that may stand in front of the digits of base sixteen: a zero and
an x, and one underscore after them. -/
inductive Mark (base : Nat) : List Char → Prop
  | missing : Mark base []
  | plain {z x : Char} (sixteen : base = 16) (zero : digit? z = some 0)
      (letter : x = 'x' ∨ x = 'X') : Mark base [z, x]
  | apart {z x : Char} (sixteen : base = 16) (zero : digit? z = some 0)
      (letter : x = 'x' ∨ x = 'X') : Mark base [z, x, '_']

theorem exists_unmarked (s : List Char) : ∃ mark, s = mark ++ unmarked s ∧ Mark 16 mark := by
  unfold unmarked
  split
  · rename_i z x rest
    split
    · rename_i hmark
      split
      · rename_i ds
        exact ⟨[z, x, '_'], rfl, .apart rfl hmark.1 hmark.2⟩
      · exact ⟨[z, x], rfl, .plain rfl hmark.1 hmark.2⟩
    · exact ⟨[], rfl, .missing⟩
  · exact ⟨[], rfl, .missing⟩

theorem Mark.exists_head {base : Nat} {mark digits : List Char} {ds : List Nat} (h : Mark base mark)
    (hdigits : Digits base digits ds) :
    ∃ c d, (mark ++ digits).head? = some c ∧ digit? c = some d := by
  cases h with
  | missing => exact hdigits.exists_head
  | plain _ zero => exact ⟨_, 0, rfl, zero⟩
  | apart _ zero => exact ⟨_, 0, rfl, zero⟩

/-- The letter of the mark is not the second character of digits. -/
theorem Digits.not_letter {base : Nat} {z x : Char} {s : List Char} {ds : List Nat}
    (h : Digits base (z :: x :: s) ds) : ¬(x = 'x' ∨ x = 'X') := by
  have hdigit : ∀ {d}, digit? x = some d → ¬(x = 'x' ∨ x = 'X') := by
    rintro d hd (rfl | rfl)
    · cases hd
    · cases hd
  cases h with
  | next _ _ rest =>
    obtain ⟨first, d, hfirst, hd⟩ := rest.exists_head
    obtain rfl := Option.some.inj hfirst
    exact hdigit hd
  | apart => decide

theorem unmarked_of_letter {z x : Char} (zero : digit? z = some 0) (letter : x = 'x' ∨ x = 'X')
    (s : List Char) : unmarked (z :: x :: s) = match s with
      | '_' :: ds => ds
      | ds => ds := by
  unfold unmarked
  exact if_pos ⟨zero, letter⟩

theorem unmarked_eq {base : Nat} {mark digits : List Char} {ds : List Nat} (h : Mark base mark)
    (hdigits : Digits base digits ds) : unmarked (mark ++ digits) = digits := by
  cases h with
  | missing =>
    rw [List.nil_append]
    match digits, hdigits with
    | [c], _ => rfl
    | z :: x :: s, hdigits =>
      unfold unmarked
      exact if_neg fun hmark => hdigits.not_letter hmark.2
  | plain _ zero letter =>
    rw [List.cons_append, List.cons_append, List.nil_append, unmarked_of_letter zero letter]
    obtain ⟨first, d, hfirst, hd⟩ := hdigits.exists_head
    split
    · obtain rfl := Option.some.inj hfirst
      cases hd
    · rfl
  | apart _ zero letter => exact unmarked_of_letter zero letter _

/-! ### Numbers -/

/-- A text that spells a whole number in a base. In base ten the number of its
digits is limited. -/
inductive Spells (base : Nat) : List Char → Int → Prop
  | of {front sign mark digits back : List Char} {negative : Bool} {ds : List Nat}
      (front_blank : ∀ c ∈ front, isBlank c = true) (back_blank : ∀ c ∈ back, isBlank c = true)
      (signed : Sign sign negative) (marked : Mark base mark) (spelled : Digits base digits ds)
      (limited : base = 10 → ds.length ≤ digitLimit) :
      Spells base (front ++ (sign ++ (mark ++ digits)) ++ back)
        (if negative then -Int.ofNat (ofDigits base ds) else Int.ofNat (ofDigits base ds))

theorem Spells.of_readInt {base : Nat} {s : List Char} {n : Int} (h : readInt base s = some n) :
    Spells base s n := by
  obtain ⟨front, back, hs, hfront, hback⟩ := exists_trimEnds isBlank s
  obtain ⟨sign, hsign, signed⟩ := exists_unsigned (trimBlanks s)
  obtain ⟨mark, hmark, marked⟩ : ∃ mark, (unsigned (trimBlanks s)).2 =
      mark ++ (if base = 16 then unmarked (unsigned (trimBlanks s)).2
        else (unsigned (trimBlanks s)).2) ∧ Mark base mark := by
    by_cases hbase : base = 16
    · rw [if_pos hbase, hbase]
      exact exists_unmarked _
    · rw [if_neg hbase]
      exact ⟨[], rfl, .missing⟩
  unfold readInt at h
  simp only at h
  split at h
  · cases h
  · rename_i ds hds
    split at h
    · cases h
    · rename_i hlimit
      obtain rfl := Option.some.inj h
      have hspells := Spells.of hfront hback signed marked (digits?_eq_some_iff.1 hds)
        fun hten => Nat.le_of_not_lt fun hmany => hlimit ⟨hten, hmany⟩
      rw [← hmark, ← hsign] at hspells
      rwa [trimBlanks, ← hs] at hspells

theorem Spells.readInt_eq {base : Nat} {s : List Char} {n : Int} (h : Spells base s n) :
    readInt base s = some n := by
  obtain ⟨hfront, hback, signed, marked, spelled, limited⟩ := h
  rename_i front sign mark digits back negative ds
  obtain ⟨c, d, hc, hd⟩ := marked.exists_head spelled
  obtain ⟨a, ha, hblanka⟩ := signed.exists_head hc hd
  obtain ⟨z, e, hz, he⟩ := spelled.exists_last
  have hlast : (sign ++ (mark ++ digits)).getLast? = some z := by
    rw [List.getLast?_append, List.getLast?_append, hz, Option.some_or, Option.some_or]
  have htrim : trimBlanks (front ++ (sign ++ (mark ++ digits)) ++ back) =
      sign ++ (mark ++ digits) :=
    trimEnds_eq hfront hback ha hlast hblanka (isBlank_of_digit? he)
  have hbare : (if base = 16 then unmarked (mark ++ digits) else mark ++ digits) = digits := by
    by_cases hbase : base = 16
    · rw [if_pos hbase, unmarked_eq marked spelled]
    · cases marked with
      | missing => rw [if_neg hbase, List.nil_append]
      | plain sixteen => exact absurd sixteen hbase
      | apart sixteen => exact absurd sixteen hbase
  have hlimit : ¬(base = 10 ∧ digitLimit < ds.length) := fun hmany =>
    Nat.not_lt.2 (limited hmany.1) hmany.2
  unfold readInt
  simp only [htrim, unsigned_eq signed hc hd, hbare, digits?_eq_some_iff.2 spelled, if_neg hlimit]

/-- A number is read from a text exactly if the text spells it. -/
theorem readInt_eq_some_iff {base : Nat} {s : List Char} {n : Int} :
    readInt base s = some n ↔ Spells base s n :=
  ⟨Spells.of_readInt, Spells.readInt_eq⟩

/-! ### How large a number can be -/

theorem ofDigits_eq (base : Nat) (ds : List Nat) :
    ofDigits base ds = Nat.ofDigits base ds.reverse := by
  rw [Nat.ofDigits_eq_foldr, List.foldr_reverse]
  refine congrArg (fun weigh => ds.foldl weigh 0) (funext fun n => funext fun d => ?_)
  rw [Nat.cast_id, Nat.add_comm, Nat.mul_comm]

theorem Digits.ofDigits_lt {base : Nat} {s : List Char} {ds : List Nat} (hbase : 1 < base)
    (h : Digits base s ds) : ofDigits base ds < base ^ s.length := by
  have hsmall : ∀ d ∈ ds.reverse, d < base := fun d hd => h.lt_base d (List.mem_reverse.1 hd)
  calc ofDigits base ds = Nat.ofDigits base ds.reverse := ofDigits_eq base ds
    _ < base ^ ds.reverse.length := Nat.ofDigits_lt_base_pow_length hbase hsmall
    _ = base ^ ds.length := by rw [List.length_reverse]
    _ ≤ base ^ s.length := Nat.pow_le_pow_right (Nat.zero_lt_of_lt hbase) h.length_le

/-- A short text spells a small number. -/
theorem Spells.natAbs_lt {base : Nat} {s : List Char} {n : Int} (hbase : 1 < base)
    (h : Spells base s n) : n.natAbs < base ^ s.length := by
  obtain ⟨-, -, -, -, spelled, -⟩ := h
  rename_i front sign mark digits back negative ds
  have habs : (if negative then -Int.ofNat (ofDigits base ds)
      else Int.ofNat (ofDigits base ds)).natAbs = ofDigits base ds := by
    cases negative with
    | false => exact Int.natAbs_natCast _
    | true => exact (Int.natAbs_neg _).trans (Int.natAbs_natCast _)
  have hlength : digits.length ≤ (front ++ (sign ++ (mark ++ digits)) ++ back).length := by
    simp only [List.length_append]
    omega
  rw [habs]
  exact (spelled.ofDigits_lt hbase).trans_le
    (Nat.pow_le_pow_right (Nat.zero_lt_of_lt hbase) hlength)

end Numeral
end Arbor
