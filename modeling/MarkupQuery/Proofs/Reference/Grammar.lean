import MarkupQuery.Proofs.Reference
import Mathlib.Data.Nat.Digits.Defs

/-!
References as a grammar. `Names` says what stands between the ampersand and the semicolon of a reference,
and `Rewrites` what text becomes when its references are replaced from left to right, apart from how either
is found. Numerals are read as numbers of the machine are, so a plus sign may stand before the digits; text
in which none does is rewritten by the references of the markup language alone. Main statement: decoding is
this rewriting (`Reference.decode_eq_iff`).
-/
namespace MarkupQuery.Reference

/-- A digit with its value in a base, a small or a capital letter from ten on. -/
def Digit (base : Nat) (c : Char) (value : Nat) : Prop :=
  value < base ∧
    ("0123456789abcdef".toList[value]? = some c ∨ "0123456789ABCDEF".toList[value]? = some c)

/-- Some digits and the number that they denote in a base. -/
def Numeral (base : Nat) (digits : Text) (n : Nat) : Prop :=
  ∃ values, digits ≠ [] ∧ List.Forall₂ (Digit base) digits values ∧
    Nat.ofDigits base values.reverse = n

/-- What a reference says between its ampersand and its semicolon, and the character that it names. A number
is that of a character which XML 1.0 admits, in any number of digits. `plus` says whether a plus sign may
stand before them. -/
inductive Names (plus : Bool) : Text → Char → Prop
  | less : Names plus ['l', 't'] '<'
  | greater : Names plus ['g', 't'] '>'
  | ampersand : Names plus ['a', 'm', 'p'] '&'
  | quotation : Names plus ['q', 'u', 'o', 't'] '"'
  | apostrophe : Names plus ['a', 'p', 'o', 's'] '\''
  | decimal {sign digits : Text} {n : Nat} (signed : sign = [] ∨ plus = true ∧ sign = ['+'])
      (number : Numeral 10 digits n) (admitted : isAdmitted n = true) :
      Names plus ('#' :: (sign ++ digits)) (Char.ofNat n)
  | hexadecimal {mark : Char} {sign digits : Text} {n : Nat} (marked : mark = 'x' ∨ mark = 'X')
      (signed : sign = [] ∨ plus = true ∧ sign = ['+'])
      (number : Numeral 16 digits n) (admitted : isAdmitted n = true) :
      Names plus ('#' :: mark :: (sign ++ digits)) (Char.ofNat n)

/-- What text becomes when its references are replaced from left to right. Everything else stays, an
ampersand that starts no reference too, and what was put in is not looked at again. -/
inductive Rewrites (plus : Bool) : Text → Text → Prop
  | nil : Rewrites plus [] []
  | reference {body rest out : Text} {c : Char} (named : Names plus body c)
      (later : Rewrites plus rest out) : Rewrites plus ('&' :: (body ++ ';' :: rest)) (c :: out)
  | kept {rest out : Text} {c : Char}
      (unnamed : c = '&' → ∀ body after d, rest = body ++ ';' :: after → ¬ Names plus body d)
      (later : Rewrites plus rest out) : Rewrites plus (c :: rest) (c :: out)

/-- The digits in the two bases of references, settled over all of ASCII. -/
theorem ascii_digits : ∀ base ∈ [10, 16], ∀ n < 0x80, ∀ value < 16,
    digit? base (Char.ofNat n) = some value ↔ Digit base (Char.ofNat n) value := by
  unfold Digit
  decide +kernel

theorem toNat_le_of_le {c d : Char} (le : c ≤ d) : c.toNat ≤ d.toNat :=
  UInt32.le_iff_toNat_le.mp (Char.le_def.mp le)

/-- No character outside ASCII is a digit. -/
theorem digit?_of_le {base : Nat} {c : Char} (large : 0x80 ≤ c.toNat) : digit? base c = none := by
  have above {low high : Char} (ascii : high.toNat < 0x80) : ¬ (low ≤ c && c ≤ high) = true := by
    intro inside
    have := toNat_le_of_le (by simpa using (Bool.and_eq_true_iff.mp inside).2)
    omega
  unfold digit?
  rw [if_neg (above (by decide)), if_neg (above (by decide)), if_neg (above (by decide)),
    if_neg (Nat.lt_irrefl _)]

theorem Digit.mem {base value : Nat} {c : Char} (digit : Digit base c value) :
    c ∈ "0123456789abcdef".toList ++ "0123456789ABCDEF".toList :=
  List.mem_append.mpr (digit.2.imp List.mem_of_getElem? List.mem_of_getElem?)

theorem Digit.ascii {base value : Nat} {c : Char} (digit : Digit base c value) : c.toNat < 0x80 := by
  have all : ("0123456789abcdef".toList ++ "0123456789ABCDEF".toList).all (·.toNat < 0x80) = true := by
    decide
  simpa using List.all_eq_true.mp all c digit.mem

theorem digit?_eq_some_iff {base value : Nat} {c : Char} (known : base ∈ [10, 16]) :
    digit? base c = some value ↔ Digit base c value := by
  have small : base ≤ 16 := by
    simp only [List.mem_cons, List.not_mem_nil, or_false] at known
    omega
  by_cases ascii : c.toNat < 0x80
  · by_cases low : value < 16
    · have same := ascii_digits base known c.toNat ascii value low
      rw [Char.ofNat_toNat] at same
      exact same
    · constructor
      · intro found
        simp only [digit?, Option.ite_none_right_eq_some, Option.some.injEq] at found
        obtain ⟨less, rfl⟩ := found
        omega
      · rintro ⟨less, _⟩
        omega
  · rw [digit?_of_le (by omega)]
    exact ⟨nofun, fun digit => absurd digit.ascii ascii⟩

theorem numeralFrom?_cons (base start : Nat) (c : Char) (rest : Text) :
    numeralFrom? base start (c :: rest) =
      match digit? base c with
      | none => none
      | some d =>
        if start * base + d < 2 ^ 32 then numeralFrom? base (start * base + d) rest else none := rfl

/-- A number does not get less by further digits. -/
theorem le_foldl_digits {base : Nat} (positive : 0 < base) (values : List Nat) (start : Nat) :
    start ≤ values.foldl (fun n d => n * base + d) start := by
  induction values generalizing start with
  | nil => exact Nat.le_refl _
  | cons d others ih =>
    have first := Nat.le_mul_of_pos_right start positive
    exact Nat.le_trans (by omega) (ih (start * base + d))

/-- Digits read one after another, the number so far in front of them. -/
theorem numeralFrom?_eq_some_iff {base start n : Nat} {digits : Text} (known : base ∈ [10, 16])
    (fits : start < 2 ^ 32) :
    numeralFrom? base start digits = some n ↔
      ∃ values, List.Forall₂ (Digit base) digits values ∧
        values.foldl (fun n d => n * base + d) start = n ∧ n < 2 ^ 32 := by
  have positive : 0 < base := by
    simp only [List.mem_cons, List.not_mem_nil, or_false] at known
    omega
  induction digits generalizing start with
  | nil =>
    constructor
    · intro same
      cases same
      exact ⟨[], .nil, rfl, fits⟩
    · rintro ⟨values, none, same, _⟩
      cases none
      exact congrArg some same
  | cons c rest ih =>
    rw [numeralFrom?_cons]
    constructor
    · intro read
      split at read
      · cases read
      · rename_i d digit
        split at read
        · rename_i below
          obtain ⟨values, later, value, bound⟩ := (ih below).mp read
          exact ⟨d :: values, .cons ((digit?_eq_some_iff known).mp digit) later, value, bound⟩
        · cases read
    · rintro ⟨values, all, value, bound⟩
      obtain _ | @⟨_, d, _, values, digit, later⟩ := all
      rw [List.foldl_cons] at value
      have below : start * base + d < 2 ^ 32 :=
        Nat.lt_of_le_of_lt (value ▸ le_foldl_digits positive values _) bound
      rw [(digit?_eq_some_iff known).mpr digit]
      dsimp only
      rw [if_pos below]
      exact (ih below).mpr ⟨values, later, value, bound⟩

theorem numeralFrom?_zero {base n : Nat} {digits : Text} (known : base ∈ [10, 16]) :
    (digits.isEmpty = false ∧ numeralFrom? base 0 digits = some n) ↔
      Numeral base digits n ∧ n < 2 ^ 32 := by
  have value (values : List Nat) :
      values.foldl (fun n d => n * base + d) 0 = Nat.ofDigits base values.reverse := by
    rw [Nat.ofDigits_eq_foldr, List.foldr_reverse]
    congr 1
    funext n d
    simp [Nat.add_comm, Nat.mul_comm]
  rw [numeralFrom?_eq_some_iff known (by decide)]
  simp only [value, Numeral]
  constructor
  · rintro ⟨some, values, all, same, bound⟩
    exact ⟨⟨values, by simpa using some, all, same⟩, bound⟩
  · rintro ⟨⟨values, some, all, same⟩, bound⟩
    exact ⟨by simpa using some, values, all, same, bound⟩

theorem Numeral.exists_digit {base n : Nat} {digits : Text} (numeral : Numeral base digits n) :
    ∃ c rest value, digits = c :: rest ∧ Digit base c value := by
  obtain ⟨values, some, all, _⟩ := numeral
  cases all with
  | nil => exact absurd rfl some
  | cons digit _ => exact ⟨_, _, _, rfl, digit⟩

/-- A numeral may have a plus sign in front of its digits, and its number no more than 32 bits. -/
theorem numeral?_eq_some_iff {base n : Nat} {text : Text} (known : base ∈ [10, 16]) :
    numeral? base text = some n ↔
      ∃ sign digits, text = sign ++ digits ∧ (sign = [] ∨ sign = ['+']) ∧ Numeral base digits n ∧
        n < 2 ^ 32 := by
  have bare (digits : Text) :
      (if digits.isEmpty then none else numeralFrom? base 0 digits) = some n ↔
        Numeral base digits n ∧ n < 2 ^ 32 := by
    rw [← numeralFrom?_zero known]
    cases digits.isEmpty <;> simp
  unfold numeral?
  dsimp only
  rw [bare]
  constructor
  · rintro ⟨numeral, bound⟩
    split at numeral
    · rename_i plus
      obtain ⟨rest, rfl⟩ := List.head?_eq_some_iff.mp (beq_iff_eq.mp plus)
      exact ⟨['+'], rest, rfl, .inr rfl, numeral, bound⟩
    · exact ⟨[], text, rfl, .inl rfl, numeral, bound⟩
  · rintro ⟨sign, digits, rfl, rfl | rfl, numeral, bound⟩
    · obtain ⟨c, rest, value, rfl, digit⟩ := numeral.exists_digit
      have solid : c ≠ '+' := ne_of_mem_of_not_mem digit.mem (by decide)
      rw [List.nil_append, if_neg (by simpa using solid)]
      exact ⟨numeral, bound⟩
    · exact ⟨numeral, bound⟩

theorem lt_of_isAdmitted {n : Nat} (admitted : isAdmitted n = true) : n < 2 ^ 32 := by
  simp only [isAdmitted, Bool.or_eq_true, Bool.and_eq_true, beq_iff_eq, decide_eq_true_eq] at admitted
  omega

/-- A numeral between the sign of numbers and the semicolon names the character with its number. -/
theorem numbered_iff {base : Nat} {text : Text} {c : Char} (known : base ∈ [10, 16]) :
    (numeral? base text).bind admitted? = some c ↔
      ∃ sign digits n, text = sign ++ digits ∧ (sign = [] ∨ true = true ∧ sign = ['+']) ∧
        Numeral base digits n ∧ isAdmitted n = true ∧ c = Char.ofNat n := by
  rw [Option.bind_eq_some_iff]
  simp only [numeral?_eq_some_iff known, admitted?, Option.ite_none_right_eq_some, Option.some.injEq,
    true_and]
  constructor
  · rintro ⟨n, ⟨sign, digits, split, signed, numeral, _⟩, admitted, rfl⟩
    exact ⟨sign, digits, n, split, signed, numeral, admitted, rfl⟩
  · rintro ⟨sign, digits, n, split, signed, numeral, admitted, rfl⟩
    exact ⟨n, ⟨sign, digits, split, signed, numeral, lt_of_isAdmitted admitted⟩, admitted, rfl⟩

theorem character?_number {c : Char} (small : c ≠ 'x') (capital : c ≠ 'X') (rest : Text) :
    character? ('#' :: c :: rest) = (numeral? 10 (c :: rest)).bind admitted? := by
  unfold character?
  split <;> simp_all

/-- What is looked up between an ampersand and a semicolon is what a reference may say. -/
theorem character?_eq_some_iff {body : Text} {c : Char} :
    character? body = some c ↔ Names true body c := by
  have decimal : 10 ∈ [10, 16] := by decide
  have sixteen : 16 ∈ [10, 16] := by decide
  constructor
  · intro found
    unfold character? at found
    split at found
    · cases found
      exact .less
    · cases found
      exact .greater
    · cases found
      exact .ampersand
    · cases found
      exact .quotation
    · cases found
      exact .apostrophe
    · obtain ⟨sign, digits, n, rfl, signed, number, admitted, rfl⟩ := (numbered_iff sixteen).mp found
      exact .hexadecimal (.inl rfl) signed number admitted
    · obtain ⟨sign, digits, n, rfl, signed, number, admitted, rfl⟩ := (numbered_iff sixteen).mp found
      exact .hexadecimal (.inr rfl) signed number admitted
    · obtain ⟨sign, digits, n, rfl, signed, number, admitted, rfl⟩ := (numbered_iff decimal).mp found
      exact .decimal signed number admitted
    · cases found
  · intro named
    cases named with
    | less => rfl
    | greater => rfl
    | ampersand => rfl
    | quotation => rfl
    | apostrophe => rfl
    | @decimal sign digits n signed number admitted =>
      have read := (numbered_iff decimal).mpr ⟨sign, digits, n, rfl, signed, number, admitted, rfl⟩
      obtain ⟨d, rest, value, rfl, digit⟩ := number.exists_digit
      rcases signed with rfl | ⟨_, rfl⟩
      · have small : d ≠ 'x' := ne_of_mem_of_not_mem digit.mem (by decide)
        have capital : d ≠ 'X' := ne_of_mem_of_not_mem digit.mem (by decide)
        exact (character?_number small capital rest).trans read
      · exact (character?_number (by decide) (by decide) (d :: rest)).trans read
    | @hexadecimal mark sign digits n marked signed number admitted =>
      have read := (numbered_iff sixteen).mpr ⟨sign, digits, n, rfl, signed, number, admitted, rfl⟩
      rcases marked with rfl | rfl <;> exact read

theorem Numeral.exists_of_mem {base n : Nat} {digits : Text} {c : Char}
    (numeral : Numeral base digits n) (member : c ∈ digits) : ∃ value, Digit base c value := by
  obtain ⟨values, -, all, -⟩ := numeral
  induction all with
  | nil => cases member
  | cons digit _ ih =>
    rcases List.mem_cons.mp member with rfl | later
    · exact ⟨_, digit⟩
    · exact ih later

/-- No reference says anything with a semicolon in it. -/
theorem Names.not_mem {plus : Bool} {body : Text} {c : Char} (named : Names plus body c) :
    ';' ∉ body := by
  have number {base n : Nat} {sign digits : Text} (signed : sign = [] ∨ plus = true ∧ sign = ['+'])
      (numeral : Numeral base digits n) : ';' ∉ sign ++ digits := by
    rw [List.mem_append, not_or]
    constructor
    · rcases signed with rfl | ⟨_, rfl⟩ <;> decide
    · intro member
      obtain ⟨value, digit⟩ := numeral.exists_of_mem member
      exact absurd digit.mem (by decide)
  cases named with
  | decimal signed numeral _ => simpa using number signed numeral
  | hexadecimal marked signed numeral _ =>
    rcases marked with rfl | rfl <;> simpa using number signed numeral
  | _ => decide

/-- What stands before the first semicolon. -/
theorem body?_eq_some_iff {text body after : Text} :
    body? text = some (body, after) ↔ text = body ++ ';' :: after ∧ ';' ∉ body := by
  constructor
  · intro found
    fun_induction body? text generalizing body with
    | case1 => cases found
    | case2 c rest mark =>
      cases found
      rw [beq_iff_eq.mp mark]
      simp
    | case3 c rest other ih =>
      obtain ⟨⟨inner, tail⟩, later, same⟩ := Option.map_eq_some_iff.mp found
      cases same
      obtain ⟨rfl, apart⟩ := ih later
      refine ⟨rfl, ?_⟩
      rw [List.mem_cons, not_or]
      exact ⟨fun same => other (beq_iff_eq.mpr same.symm), apart⟩
  · rintro ⟨rfl, apart⟩
    induction body with
    | nil => rfl
    | cons c rest ih =>
      rw [List.mem_cons, not_or] at apart
      rw [List.cons_append, body?, if_neg (by simpa using Ne.symm apart.1), ih apart.2]
      rfl

/-- A reference is read exactly where there is one. -/
theorem read?_eq_some_iff {text after : Text} {c : Char} :
    read? text = some (c, after) ↔ ∃ body, text = body ++ ';' :: after ∧ Names true body c := by
  unfold read?
  constructor
  · intro found
    split at found
    · cases found
    · rename_i body rest split
      obtain ⟨d, named, same⟩ := Option.map_eq_some_iff.mp found
      cases same
      exact ⟨body, (body?_eq_some_iff.mp split).1, character?_eq_some_iff.mp named⟩
  · rintro ⟨body, rfl, named⟩
    rw [body?_eq_some_iff.mpr ⟨rfl, named.not_mem⟩]
    dsimp only
    rw [character?_eq_some_iff.mpr named]
    rfl

theorem rewrites_expand (text : Text) : Rewrites true text (expand text) := by
  fun_induction expand text with
  | case1 => exact .nil
  | case2 c rest ampersand named after found ih =>
    obtain rfl := beq_iff_eq.mp ampersand
    obtain ⟨body, rfl, names⟩ := read?_eq_some_iff.mp found
    exact .reference names ih
  | case3 c rest ampersand none ih =>
    obtain rfl := beq_iff_eq.mp ampersand
    refine .kept (fun _ body after d split names => ?_) ih
    rw [read?_eq_some_iff.mpr ⟨body, split, names⟩] at none
    cases none
  | case4 c rest plain ih => exact .kept (fun same => absurd (beq_iff_eq.mpr same) plain) ih

theorem Rewrites.expand_eq {text out : Text} (rewrites : Rewrites true text out) :
    expand text = out := by
  induction rewrites with
  | nil => exact expand_nil
  | reference named _ ih =>
    rw [expand_reference (read?_eq_some_iff.mpr ⟨_, rfl, named⟩), ih]
  | @kept rest out c unnamed _ ih =>
    by_cases ampersand : c = '&'
    · subst ampersand
      rw [expand, if_pos (beq_self_eq_true '&')]
      split
      · rename_i found
        obtain ⟨body, split, named⟩ := read?_eq_some_iff.mp found
        exact absurd named (unnamed rfl _ _ _ split)
      · rw [ih]
    · rw [expand_cons_of_ne ampersand, ih]

/-- Expanding text is rewriting it. -/
theorem expand_eq_iff {text out : Text} : expand text = out ↔ Rewrites true text out := by
  constructor
  · rintro rfl
    exact rewrites_expand text
  · exact Rewrites.expand_eq

/-- Text is rewritten alike by references that agree wherever one could start in it. -/
theorem Rewrites.of_agree {plus other : Bool} {text out : Text} (rewrites : Rewrites plus text out)
    (agree : ∀ body c, '&' :: body <:+: text → (Names plus body c ↔ Names other body c)) :
    Rewrites other text out := by
  induction rewrites with
  | nil => exact .nil
  | @reference body rest out c named _ ih =>
    have here : '&' :: body <:+: '&' :: (body ++ ';' :: rest) := (List.prefix_append _ _).isInfix
    have below : rest <:+: '&' :: (body ++ ';' :: rest) := by
      refine (List.suffix_cons_iff.mpr (.inr ?_)).isInfix
      exact (List.suffix_cons _ _).trans (List.suffix_append _ _)
    exact .reference ((agree body c here).mp named) (ih fun b d inside => agree b d (inside.trans below))
  | @kept rest out c unnamed _ ih =>
    refine .kept ?_ (ih fun b d inside => agree b d (inside.trans (List.suffix_cons _ _).isInfix))
    rintro rfl body after d rfl named
    have here : '&' :: body <:+: '&' :: (body ++ ';' :: after) := (List.prefix_append _ _).isInfix
    exact unnamed rfl body after d rfl ((agree body d here).mpr named)

/-- The references of the markup language are those that are read without a plus sign. -/
theorem names_iff_of_unsigned {body : Text} {c : Char}
    (unsigned : ∀ mark ∈ [['#', '+'], ['#', 'x', '+'], ['#', 'X', '+']], ¬ mark <+: body) :
    Names true body c ↔ Names false body c := by
  constructor
  · intro named
    cases named with
    | less => exact .less
    | greater => exact .greater
    | ampersand => exact .ampersand
    | quotation => exact .quotation
    | apostrophe => exact .apostrophe
    | decimal signed number admitted =>
      rcases signed with rfl | ⟨_, rfl⟩
      · exact .decimal (.inl rfl) number admitted
      · exact absurd (List.prefix_append _ _) (unsigned ['#', '+'] (by decide))
    | @hexadecimal mark _ _ _ marked signed number admitted =>
      rcases signed with rfl | ⟨_, rfl⟩
      · exact .hexadecimal marked (.inl rfl) number admitted
      · refine absurd (List.prefix_append ['#', mark, '+'] _) (unsigned ['#', mark, '+'] ?_)
        rcases marked with rfl | rfl <;> decide
  · intro named
    have signs {sign : Text} (bare : sign = [] ∨ false = true ∧ sign = ['+']) :
        sign = [] ∨ true = true ∧ sign = ['+'] := bare.imp id fun signed => ⟨rfl, signed.2⟩
    cases named with
    | less => exact .less
    | greater => exact .greater
    | ampersand => exact .ampersand
    | quotation => exact .quotation
    | apostrophe => exact .apostrophe
    | decimal signed number admitted => exact .decimal (signs signed) number admitted
    | hexadecimal marked signed number admitted =>
      exact .hexadecimal marked (signs signed) number admitted

/-- Decoding replaces references from left to right, a plus sign allowed before the digits of a number.
Where text has no such sign, these are the references of the markup language. -/
theorem decode_eq_iff {text out : Text} :
    (decode text = out ↔ Rewrites true text out) ∧
      ((∀ mark ∈ ["&#+".toList, "&#x+".toList, "&#X+".toList], ¬ mark <:+: text) →
        (decode text = out ↔ Rewrites false text out)) := by
  have whole : decode text = out ↔ Rewrites true text out := by
    rw [decode_eq_expand]
    exact expand_eq_iff
  refine ⟨whole, fun unsigned => ?_⟩
  have agree : ∀ body c, '&' :: body <:+: text → (Names true body c ↔ Names false body c) := by
    intro body c inside
    refine names_iff_of_unsigned fun mark member starts => ?_
    have marked : '&' :: mark ∈ ["&#+".toList, "&#x+".toList, "&#X+".toList] := by
      simpa using member
    exact unsigned _ marked ((List.cons_prefix_cons.mpr ⟨rfl, starts⟩).isInfix.trans inside)
  rw [whole]
  exact ⟨fun r => r.of_agree agree, fun r => r.of_agree fun b c inside => (agree b c inside).symm⟩

/-- Text with a padded numeral, a reference that decodes to the start of another, a number that no character
has and an unknown name. -/
theorem decode_eq_iff_of_overflow :
    (∀ mark ∈ ["&#+".toList, "&#x+".toList, "&#X+".toList],
        ¬ mark <:+: "&#x0041;&amp;lt;&#99999999999;&copy".toList) ∧
      decode "&#x0041;&amp;lt;&#99999999999;&copy".toList = "A&lt;&#99999999999;&copy".toList ∧
      Rewrites false "&#x0041;&amp;lt;&#99999999999;&copy".toList
        "A&lt;&#99999999999;&copy".toList := by
  have unsigned : ∀ mark ∈ ["&#+".toList, "&#x+".toList, "&#X+".toList],
      ¬ mark <:+: "&#x0041;&amp;lt;&#99999999999;&copy".toList := by decide +kernel
  have decoded : decode "&#x0041;&amp;lt;&#99999999999;&copy".toList =
      "A&lt;&#99999999999;&copy".toList := by decide +kernel
  exact ⟨unsigned, decoded, (decode_eq_iff.2 unsigned).mp decoded⟩

/-- A plus sign before the digits is read, though no reference of the markup language has one. -/
theorem decode_reads_plus :
    decode "&#+65;".toList = ['A'] ∧ ¬ Rewrites false "&#+65;".toList ['A'] := by
  refine ⟨by decide +kernel, fun rewrites => ?_⟩
  have inside {body rest : Text} {c : Char} (named : Names false body c) (letter : c = 'A') :
      body ++ ';' :: rest ≠ ['#', '+', '6', '5', ';'] := by
    cases named with
    | decimal signed number =>
      obtain ⟨d, others, value, rfl, digit⟩ := number.exists_digit
      rcases signed with rfl | ⟨plus, _⟩
      · rintro same
        simp only [List.nil_append, List.cons_append, List.cons.injEq] at same
        exact ne_of_mem_of_not_mem digit.mem (by decide) same.2.1
      · cases plus
    | hexadecimal marked =>
      rcases marked with rfl | rfl <;> simp
    | _ => cases letter
  generalize written : "&#+65;".toList = text at rewrites
  cases rewrites with
  | kept => simp at written
  | reference named _ => exact inside named rfl (by simpa using written.symm)

end MarkupQuery.Reference
