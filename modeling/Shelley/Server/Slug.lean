import Mathlib.Data.List.Basic
import Mathlib.Data.List.DropRight
import Mathlib.Data.List.Infix

/-! # Sub-agent slugs

`ccDescriptionToSlug` of `server/claudecode_loop.go`, over lists of runes. Go ranges over
the runes of `strings.ToLower(description)`, so a string is its list of characters here.
The slug the function builds holds only ASCII runes, whose byte length is their rune count
(`utf8ByteSize_of_isSlugRune`), so the final `s[:40]` is `List.take 40`.

Every slug holds only runes of `[a-z0-9-]`, has no `--`, does not start with `-` and has at
most 40 bytes (`ccDescriptionToSlug_wellFormed`). The cut to 40 bytes comes after the trim,
so a slug ends with `-` when the 40th rune of the trimmed string is a dash
(`ccDescriptionToSlug_getLast?_eq_dash`), and exactly those slugs are not their own slug
(`ccDescriptionToSlug_idempotent_iff`, `ccDescriptionToSlug_trailing_dash`). -/

namespace Shelley.Server

/-- `unicode.ToLower` on the runes whose lower case is ASCII: `A`–`Z`, the Kelvin sign
(U+212A) and the capital `I` with a dot above (U+0130). Every other rune has a lower case
that is not ASCII, or is its own lower case; the slug drops it either way, so the model
leaves it unchanged. -/
def unicodeToLower (r : Char) : Char :=
  if 'A' ≤ r ∧ r ≤ 'Z' then Char.ofNat (r.toNat + 32)
  else if r = 'K' then 'k'
  else if r = 'İ' then 'i'
  else r

/-- The `switch` of the rune loop: the rune the builder receives, if any. -/
def slugRune (r : Char) : Option Char :=
  if ('a' ≤ r ∧ r ≤ 'z') ∨ ('0' ≤ r ∧ r ≤ '9') ∨ r = '-' then some r
  else if r = ' ' ∨ r = '_' then some '-'
  else none

/-- `strings.ReplaceAll(s, "--", "-")`: non-overlapping occurrences, left to right. -/
def replaceDoubleDash : List Char → List Char
  | '-' :: '-' :: rest => '-' :: replaceDoubleDash rest
  | r :: rest => r :: replaceDoubleDash rest
  | [] => []

/-- `strings.Contains(s, "--")`. -/
def containsDoubleDash : List Char → Bool
  | '-' :: '-' :: _ => true
  | _ :: rest => containsDoubleDash rest
  | [] => false

/-- The loop `for strings.Contains(s, "--") { s = strings.ReplaceAll(s, "--", "-") }`,
run for at most `fuel` rounds. Each round that finds `--` shortens `s`, so `s.length`
rounds are enough (`ccDescriptionToSlug` gives that fuel). -/
def collapseDashes : Nat → List Char → List Char
  | 0, s => s
  | fuel + 1, s => if containsDoubleDash s then collapseDashes fuel (replaceDoubleDash s) else s

/-- `strings.Trim(s, "-")`. -/
def trimDashes (s : List Char) : List Char :=
  ((s.dropWhile (· = '-')).reverse.dropWhile (· = '-')).reverse

/-- `ccDescriptionToSlug`. -/
def ccDescriptionToSlug (description : String) : String :=
  let b := description.toList.filterMap fun r => slugRune (unicodeToLower r)
  let s := trimDashes (collapseDashes b.length b)
  String.mk (if s.length > 40 then s.take 40 else s)

/-! ## Slug runes -/

/-- The runes the `switch` passes on unchanged: `[a-z0-9-]`. -/
def IsSlugRune (r : Char) : Prop := ('a' ≤ r ∧ r ≤ 'z') ∨ ('0' ≤ r ∧ r ≤ '9') ∨ r = '-'

instance (r : Char) : Decidable (IsSlugRune r) := inferInstanceAs (Decidable (_ ∨ _ ∨ _))

theorem IsSlugRune.toNat_lt {r : Char} (h : IsSlugRune r) : r.toNat < 128 := by
  rcases h with ⟨-, h⟩ | ⟨-, h⟩ | rfl
  · exact Nat.lt_of_le_of_lt h (by decide)
  · exact Nat.lt_of_le_of_lt h (by decide)
  · decide

theorem unicodeToLower_of_isSlugRune {r : Char} (h : IsSlugRune r) : unicodeToLower r = r := by
  have hr := h.toNat_lt
  unfold unicodeToLower
  rw [if_neg, if_neg, if_neg]
  · rintro rfl; exact absurd hr (by decide)
  · rintro rfl; exact absurd hr (by decide)
  · rintro ⟨h₁, h₂⟩
    rcases h with ⟨h₃, -⟩ | ⟨-, h₃⟩ | rfl
    · exact absurd (Nat.le_trans h₃ h₂) (by decide)
    · exact absurd (Nat.le_trans h₁ h₃) (by decide)
    · exact absurd h₁ (by decide)

theorem slugRune_of_isSlugRune {r : Char} (h : IsSlugRune r) : slugRune r = some r :=
  if_pos h

theorem isSlugRune_of_slugRune {r c : Char} (h : slugRune r = some c) : IsSlugRune c := by
  unfold slugRune at h
  split_ifs at h with h₁ <;> cases h
  · exact h₁
  · exact .inr (.inr rfl)

/-- The rune loop passes a string of slug runes through unchanged. -/
theorem filterMap_slugRune {s : List Char} (h : ∀ r ∈ s, IsSlugRune r) :
    s.filterMap (fun r => slugRune (unicodeToLower r)) = s :=
  (List.filterMap_congr fun r hr => by
    rw [unicodeToLower_of_isSlugRune (h r hr), slugRune_of_isSlugRune (h r hr)]).trans
    (List.filterMap_some s)

theorem IsSlugRune.utf8Size {r : Char} (h : IsSlugRune r) : r.utf8Size = 1 := by
  have := h.toNat_lt
  unfold Char.utf8Size
  rw [if_pos]
  show r.toNat ≤ 127
  omega

/-- A string of slug runes has one byte per rune. -/
theorem utf8ByteSize_of_isSlugRune {x : String} (h : ∀ r ∈ x.toList, IsSlugRune r) :
    x.utf8ByteSize = x.toList.length := by
  obtain ⟨s⟩ := x
  show String.utf8ByteSize.go s = s.length
  induction s with
  | nil => rfl
  | cons r s ih =>
    rw [String.utf8ByteSize.go, ih fun r' h' => h r' (List.mem_cons_of_mem r h'),
      (h r (List.mem_cons_self r s)).utf8Size]
    rfl

/-! ## Collapsing `--` -/

/-- `strings.Contains(s, "--")` is the search for `--` as an infix. -/
theorem containsDoubleDash_iff {s : List Char} :
    containsDoubleDash s = true ↔ ['-', '-'] <:+: s := by
  induction s using containsDoubleDash.induct with
  | case1 rest =>
    simp only [containsDoubleDash, true_iff]
    exact (List.prefix_append _ rest).isInfix
  | case2 r rest hr ih =>
    rw [containsDoubleDash, ih, List.infix_cons_iff, or_iff_right]
    · rintro ⟨t, ht⟩
      exact hr t (List.cons.inj ht).1.symm (List.cons.inj ht).2.symm
    · exact hr
  | case3 => simp [containsDoubleDash]

theorem containsDoubleDash_of_infix {s t : List Char} (h : t <:+: s)
    (hs : containsDoubleDash s = false) : containsDoubleDash t = false := by
  rw [← Bool.not_eq_true, containsDoubleDash_iff] at hs ⊢
  exact fun ht => hs (ht.trans h)

theorem replaceDoubleDash_sublist (s : List Char) : List.Sublist (replaceDoubleDash s) s := by
  induction s using replaceDoubleDash.induct with
  | case1 rest ih => rw [replaceDoubleDash]; exact (ih.cons₂ _).cons _
  | case2 r rest hr ih => rw [replaceDoubleDash]; exact ih.cons₂ _; exact hr
  | case3 => exact .slnil

/-- A round of the loop that finds `--` shortens the string. -/
theorem replaceDoubleDash_length_lt {s : List Char} (h : containsDoubleDash s = true) :
    (replaceDoubleDash s).length < s.length := by
  induction s using replaceDoubleDash.induct with
  | case1 rest _ =>
    have := (replaceDoubleDash_sublist rest).length_le
    simp only [replaceDoubleDash, List.length_cons]
    omega
  | case2 r rest hr ih =>
    rw [containsDoubleDash] at h
    · rw [replaceDoubleDash, List.length_cons, List.length_cons]
      · exact Nat.succ_lt_succ (ih h)
      · exact hr
    · exact hr
  | case3 => cases h

theorem collapseDashes_sublist :
    ∀ (fuel : Nat) (s : List Char), List.Sublist (collapseDashes fuel s) s
  | 0, _ => .refl _
  | fuel + 1, s => by
    unfold collapseDashes
    split
    · exact (collapseDashes_sublist fuel _).trans (replaceDoubleDash_sublist s)
    · exact .refl _

/-- With as many rounds as `s` has runes, the loop ends with no `--` left. -/
theorem containsDoubleDash_collapseDashes :
    ∀ {fuel : Nat} {s : List Char}, s.length ≤ fuel →
      containsDoubleDash (collapseDashes fuel s) = false
  | 0, s, h => by rw [List.length_eq_zero.mp (Nat.le_zero.mp h)]; rfl
  | fuel + 1, s, h => by
    unfold collapseDashes
    split
    · rename_i hc
      exact containsDoubleDash_collapseDashes (by have := replaceDoubleDash_length_lt hc; omega)
    · rename_i hc
      simpa using hc

theorem collapseDashes_of_not_contains {s : List Char} (h : containsDoubleDash s = false) :
    ∀ fuel, collapseDashes fuel s = s
  | 0 => rfl
  | _ + 1 => by rw [collapseDashes, h]; rfl

/-! ## Trimming dashes -/

theorem trimDashes_eq (s : List Char) :
    trimDashes s = (s.dropWhile (· = '-')).rdropWhile (· = '-') := rfl

theorem trimDashes_isInfix (s : List Char) : trimDashes s <:+: s :=
  (List.rdropWhile_prefix _ _).isInfix.trans (List.dropWhile_suffix _).isInfix

theorem getLast?_trimDashes (s : List Char) : (trimDashes s).getLast? ≠ some '-' := by
  intro h
  have hne : trimDashes s ≠ [] := fun h' => by simp [h'] at h
  rw [List.getLast?_eq_getLast _ hne, Option.some_inj] at h
  exact List.rdropWhile_last_not _ _ hne (by simpa using h)

theorem head?_trimDashes (s : List Char) : (trimDashes s).head? ≠ some '-' := by
  have hp := List.prefix_iff_eq_take.mp (List.rdropWhile_prefix (· = '-') (s.dropWhile (· = '-')))
  have hd := List.head?_dropWhile_not (· = '-') s
  rw [trimDashes_eq, hp, List.head?_take]
  split
  · simp
  · intro h
    rw [h] at hd
    simp at hd

theorem trimDashes_eq_self {s : List Char} (hh : s.head? ≠ some '-')
    (hl : s.getLast? ≠ some '-') : trimDashes s = s := by
  rw [trimDashes_eq, List.dropWhile_eq_self_iff.mpr, List.rdropWhile_eq_self_iff.mpr]
  · intro hs h
    exact hl (by simp_all [List.getLast?_eq_getLast s hs])
  · intro hs h
    cases s with
    | nil => cases hs
    | cons a s => simp_all

/-! ## The slug -/

/-- The runes `ccDescriptionToSlug` cuts to 40: those of the builder with the `--` runs
collapsed and the dashes at either end trimmed. -/
def trimmedSlug (description : String) : List Char :=
  let b := description.toList.filterMap fun r => slugRune (unicodeToLower r)
  trimDashes (collapseDashes b.length b)

theorem ccDescriptionToSlug_toList (description : String) :
    (ccDescriptionToSlug description).toList = (trimmedSlug description).take 40 := by
  dsimp only [ccDescriptionToSlug, trimmedSlug, String.toList]
  split
  · rfl
  · exact (List.take_of_length_le (by omega)).symm

theorem trimmedSlug_isSlugRune (description : String) :
    ∀ r ∈ trimmedSlug description, IsSlugRune r := fun r hr => by
  obtain ⟨_, -, h⟩ := List.mem_filterMap.mp
    (((trimDashes_isInfix _).sublist.trans (collapseDashes_sublist _ _)).subset hr)
  exact isSlugRune_of_slugRune h

theorem containsDoubleDash_trimmedSlug (description : String) :
    containsDoubleDash (trimmedSlug description) = false :=
  containsDoubleDash_of_infix (trimDashes_isInfix _) (containsDoubleDash_collapseDashes le_rfl)

theorem isSlugRune_of_mem_ccDescriptionToSlug (description : String) :
    ∀ r ∈ (ccDescriptionToSlug description).toList, IsSlugRune r := fun r h =>
  trimmedSlug_isSlugRune description r
    (List.mem_of_mem_take (ccDescriptionToSlug_toList description ▸ h))

theorem containsDoubleDash_ccDescriptionToSlug (description : String) :
    containsDoubleDash (ccDescriptionToSlug description).toList = false := by
  rw [ccDescriptionToSlug_toList]
  exact containsDoubleDash_of_infix (List.take_prefix _ _).isInfix
    (containsDoubleDash_trimmedSlug _)

theorem head?_ccDescriptionToSlug (description : String) :
    (ccDescriptionToSlug description).toList.head? ≠ some '-' := by
  rw [ccDescriptionToSlug_toList, List.head?_take, if_neg (by decide)]
  exact head?_trimDashes _

/-- **Slug runes.** Every slug holds only runes of `[a-z0-9-]`, has no `--`, does not start
with `-`, and has at most 40 bytes. -/
theorem ccDescriptionToSlug_wellFormed (description : String) :
    (∀ r ∈ (ccDescriptionToSlug description).toList, IsSlugRune r) ∧
      containsDoubleDash (ccDescriptionToSlug description).toList = false ∧
      (ccDescriptionToSlug description).toList.head? ≠ some '-' ∧
      (ccDescriptionToSlug description).utf8ByteSize ≤ 40 := by
  have hr := isSlugRune_of_mem_ccDescriptionToSlug description
  refine ⟨hr, containsDoubleDash_ccDescriptionToSlug description,
    head?_ccDescriptionToSlug description, ?_⟩
  rw [utf8ByteSize_of_isSlugRune hr, ccDescriptionToSlug_toList]
  exact List.length_take_le _ _

/-- **The trailing dash.** A slug ends with `-` exactly when the trimmed runes are longer than
40 and the 40th of them is a dash: `s[:40]` is taken after `strings.Trim`. -/
theorem ccDescriptionToSlug_getLast?_eq_dash (description : String) :
    (ccDescriptionToSlug description).toList.getLast? = some '-' ↔
      40 < (trimmedSlug description).length ∧ (trimmedSlug description)[39]? = some '-' := by
  have hlast : (trimmedSlug description).getLast? ≠ some '-' := getLast?_trimDashes _
  rw [ccDescriptionToSlug_toList, List.getLast?_take, if_neg (by decide)]
  generalize trimmedSlug description = t at hlast ⊢
  rcases h39 : t[39]? with _ | r
  · simpa [h39] using hlast
  · have hlen : 39 < t.length := (List.getElem?_eq_some_iff.mp h39).1
    show some r = some '-' ↔ _
    rw [Option.some_inj]
    constructor
    · rintro rfl
      refine ⟨Nat.lt_of_le_of_ne hlen fun h => hlast ?_, rfl⟩
      rw [List.getLast?_eq_getElem?, ← h]
      exact h39
    · exact fun h => h.2

/-- A string of slug runes with no `--` and at most 40 runes is its own slug, up to the
dashes at its ends. -/
theorem ccDescriptionToSlug_of_isSlugRune {x : String} (hr : ∀ r ∈ x.toList, IsSlugRune r)
    (hd : containsDoubleDash x.toList = false) (hlen : x.toList.length ≤ 40) :
    (ccDescriptionToSlug x).toList = trimDashes x.toList := by
  rw [ccDescriptionToSlug_toList, trimmedSlug, filterMap_slugRune hr,
    collapseDashes_of_not_contains hd,
    List.take_of_length_le ((trimDashes_isInfix _).length_le.trans hlen)]

/-- **Slug of a slug.** A slug is its own slug exactly when it does not end with `-`. -/
theorem ccDescriptionToSlug_idempotent_iff (description : String) :
    ccDescriptionToSlug (ccDescriptionToSlug description) = ccDescriptionToSlug description ↔
      (ccDescriptionToSlug description).toList.getLast? ≠ some '-' := by
  have hlen : (ccDescriptionToSlug description).toList.length ≤ 40 := by
    rw [ccDescriptionToSlug_toList]
    exact List.length_take_le _ _
  rw [String.ext_iff]
  show (ccDescriptionToSlug _).toList = (ccDescriptionToSlug description).toList ↔ _
  rw [ccDescriptionToSlug_of_isSlugRune (isSlugRune_of_mem_ccDescriptionToSlug description)
    (containsDoubleDash_ccDescriptionToSlug description) hlen]
  exact ⟨fun h => h ▸ getLast?_trimDashes _,
    trimDashes_eq_self (head?_ccDescriptionToSlug description)⟩

/-- A description whose 40th slug rune comes from a space: the cut keeps the dash, and the
slug of that slug drops it. -/
theorem ccDescriptionToSlug_trailing_dash :
    ccDescriptionToSlug "Investigate the flaky integration tests in the payments service" =
        "investigate-the-flaky-integration-tests-" ∧
      ccDescriptionToSlug "investigate-the-flaky-integration-tests-" =
        "investigate-the-flaky-integration-tests" :=
  ⟨rfl, rfl⟩

end Shelley.Server
