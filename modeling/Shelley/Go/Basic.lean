import Mathlib.Data.List.Infix

/-! # Go strings and run-time panics

What the models take from Go itself. A Go `string` is its bytes, so the functions of package
`strings` that the code calls are written here over byte lists, and a byte offset into a
string is a list index. The run-time errors the code can raise (a slice or an index out of
range, a nil pointer dereference) are the error values of `Except RuntimeError`: a function
that can panic returns one.

`s[low:high]` succeeds exactly when `low ≤ high ≤ len(s)` (`slice_eq_ok`, `slice_eq_error`),
and `strings.Index` finds an occurrence that lies inside the string, at offset `0` exactly when
the string starts with it (`index_eq_some`, `index_eq_some_zero`). -/

namespace Shelley.Go

/-- The run-time panics of the modelled code, with what Go's runtime reports for each. -/
inductive RuntimeError where
  /-- `runtime error: slice bounds out of range`, for `s[low:high]` of a string of length
  `length`. -/
  | sliceBoundsOutOfRange (low high length : Nat)
  /-- `runtime error: index out of range [index] with length length`. -/
  | indexOutOfRange (index length : Nat)
  /-- `runtime error: invalid memory address or nil pointer dereference`. -/
  | nilPointerDereference
  deriving DecidableEq, Repr

/-- A string literal of the source, as its UTF-8 bytes. -/
def lit (s : String) : List UInt8 := s.toUTF8.data.toList

/-- `strings.HasPrefix(s, pre)`. -/
def hasPrefix (s pre : List UInt8) : Bool := pre.isPrefixOf s

/-- `strings.TrimPrefix(s, pre)`. -/
def trimPrefix (s pre : List UInt8) : List UInt8 :=
  if pre.isPrefixOf s then s.drop pre.length else s

/-- `strings.Index(s, substr)`: the offset of the first occurrence; `none` is Go's `-1`. -/
def index (s substr : List UInt8) : Option Nat :=
  if substr.isPrefixOf s then some 0
  else match s with
    | [] => none
    | _ :: s' => (index s' substr).map (· + 1)

/-- `s[low:high]`, which panics unless `low ≤ high ≤ len(s)`. -/
def slice (s : List UInt8) (low high : Nat) : Except RuntimeError (List UInt8) :=
  if low ≤ high ∧ high ≤ s.length then .ok ((s.take high).drop low)
  else .error (.sliceBoundsOutOfRange low high s.length)

/-- `s[i]`, which panics unless `i < len(s)`. -/
def byteAt (s : List UInt8) (i : Nat) : Except RuntimeError UInt8 :=
  match s.get? i with
  | some b => .ok b
  | none => .error (.indexOutOfRange i s.length)

/-- `strings.Split(s, sep)` for a one-byte `sep`: `n + 1` pieces around `n` separators. -/
def split (s : List UInt8) (sep : UInt8) : List (List UInt8) := s.splitOn sep

/-- `strings.Join(elems, sep)`. -/
def join (elems : List (List UInt8)) (sep : List UInt8) : List UInt8 := sep.intercalate elems

/-- The runes `unicode.IsSpace` reports: `'\t'`, `'\n'`, `'\v'`, `'\f'`, `'\r'`, `' '`, U+0085,
U+00A0, and above Latin-1 the rest of Unicode's `White_Space`. -/
def spaceRunes : List Char :=
  ['\t', '\n', '\x0B', '\x0C', '\r', ' ', '\x85', '\xA0', '\u1680', '\u2000', '\u2001',
    '\u2002', '\u2003', '\u2004', '\u2005', '\u2006', '\u2007', '\u2008', '\u2009', '\u200A',
    '\u2028', '\u2029', '\u202F', '\u205F', '\u3000']

/-- The UTF-8 encodings of `spaceRunes`. Each starts with a byte that cannot continue a rune,
so a string starts (ends) with one exactly when `utf8.DecodeRune` (`DecodeLastRune`) reads a
space there. -/
def spaceEncodings : List (List UInt8) := spaceRunes.map String.utf8EncodeChar

/-- `strings.TrimLeftFunc(s, unicode.IsSpace)`, for at most `fuel` runes. -/
def trimLeftSpace : Nat → List UInt8 → List UInt8
  | 0, s => s
  | fuel + 1, s =>
    match spaceEncodings.find? (·.isPrefixOf s) with
    | some enc => trimLeftSpace fuel (s.drop enc.length)
    | none => s

/-- `strings.TrimRightFunc(s, unicode.IsSpace)`, for at most `fuel` runes. -/
def trimRightSpace : Nat → List UInt8 → List UInt8
  | 0, s => s
  | fuel + 1, s =>
    match spaceEncodings.find? (·.isSuffixOf s) with
    | some enc => trimRightSpace fuel (s.take (s.length - enc.length))
    | none => s

/-- `strings.TrimSpace(s)`. A rune takes at least one byte, so `len(s)` rounds trim all. -/
def trimSpace (s : List UInt8) : List UInt8 :=
  let t := trimLeftSpace s.length s
  trimRightSpace t.length t

/-! ## Slices and offsets -/

@[simp] theorem ok_bind {ε α β : Type} (a : α) (f : α → Except ε β) :
    (Except.ok a >>= f) = f a := rfl

@[simp] theorem error_bind {ε α β : Type} (e : ε) (f : α → Except ε β) :
    (Except.error e >>= f) = Except.error e := rfl

@[simp] theorem pure_eq_ok {ε α : Type} (a : α) : (pure a : Except ε α) = Except.ok a := rfl

/-- A computation that returns went through each of its steps. -/
theorem bind_eq_ok {ε α β : Type} {x : Except ε α} {f : α → Except ε β} {r : β} :
    (x >>= f) = .ok r ↔ ∃ a, x = .ok a ∧ f a = .ok r := by
  cases x <;> simp

/-- A computation that fails failed at one of its steps. -/
theorem bind_eq_error {ε α β : Type} {x : Except ε α} {f : α → Except ε β} {e : ε} :
    (x >>= f) = .error e ↔ x = .error e ∨ ∃ a, x = .ok a ∧ f a = .error e := by
  cases x <;> simp

theorem slice_eq_ok {s : List UInt8} {low high : Nat} (hlow : low ≤ high)
    (hhigh : high ≤ s.length) : slice s low high = .ok ((s.take high).drop low) :=
  if_pos ⟨hlow, hhigh⟩

theorem slice_eq_error {s : List UInt8} {low high : Nat} (h : high < low) :
    slice s low high = .error (.sliceBoundsOutOfRange low high s.length) :=
  if_neg fun ⟨hlow, _⟩ => Nat.lt_irrefl _ (Nat.lt_of_lt_of_le h hlow)

theorem index_eq_some_zero {s substr : List UInt8} : index s substr = some 0 ↔ substr <+: s := by
  rw [← List.isPrefixOf_iff_prefix]
  unfold index
  split
  · simp_all
  · rename_i h
    split
    · simp_all
    · simp [h]

/-- The occurrence `strings.Index` reports lies inside the string. -/
theorem index_eq_some {s substr : List UInt8} {i : Nat} (h : index s substr = some i) :
    substr <+: s.drop i := by
  induction s generalizing i with
  | nil =>
    unfold index at h
    split at h
    · cases h
      exact List.isPrefixOf_iff_prefix.mp (by assumption)
    · cases h
  | cons b s ih =>
    unfold index at h
    split at h
    · cases h
      exact List.isPrefixOf_iff_prefix.mp (by assumption)
    · obtain ⟨j, hj, rfl⟩ := Option.map_eq_some'.mp h
      exact ih hj

theorem index_cons_of_not_prefix {b : UInt8} {s substr : List UInt8}
    (h : substr.isPrefixOf (b :: s) = false) :
    index (b :: s) substr = (index s substr).map (· + 1) := by
  rw [index, if_neg (by simp [h])]

/-- `strings.Index` passes over a piece without the first byte of what it looks for. -/
theorem index_append_of_not_mem {c : UInt8} {p s rest : List UInt8} (hc : c ∉ p) :
    index (p ++ s) (c :: rest) = (index s (c :: rest)).map (· + p.length) := by
  induction p with
  | nil => simp
  | cons b p ih =>
    have hb : c ≠ b := fun h => hc (h ▸ List.mem_cons_self _ _)
    rw [List.cons_append, index_cons_of_not_prefix (by simp [List.isPrefixOf, hb]),
      ih (fun h => hc (List.mem_cons_of_mem _ h))]
    cases index s (c :: rest) <;> simp [Nat.add_assoc, Nat.add_comm 1]

/-! ## Trimming -/

theorem trimLeftSpace_suffix : ∀ (fuel : Nat) (s : List UInt8), trimLeftSpace fuel s <:+ s
  | 0, _ => List.suffix_refl _
  | fuel + 1, s => by
    unfold trimLeftSpace
    split
    · exact (trimLeftSpace_suffix fuel _).trans (List.drop_suffix _ _)
    · exact List.suffix_refl _

theorem trimRightSpace_isPrefix : ∀ (fuel : Nat) (s : List UInt8), trimRightSpace fuel s <+: s
  | 0, _ => List.prefix_refl _
  | fuel + 1, s => by
    unfold trimRightSpace
    split
    · exact (trimRightSpace_isPrefix fuel _).trans (List.take_prefix _ _)
    · exact List.prefix_refl _

/-- `strings.TrimSpace` returns a piece of its argument. -/
theorem trimSpace_isInfix (s : List UInt8) : trimSpace s <:+: s :=
  (trimRightSpace_isPrefix _ _).isInfix.trans (trimLeftSpace_suffix _ _).isInfix

theorem trimPrefix_suffix (s pre : List UInt8) : trimPrefix s pre <:+ s := by
  unfold trimPrefix
  split
  · exact List.drop_suffix _ _
  · exact List.suffix_refl _

theorem hasPrefix_append (p s : List UInt8) : hasPrefix (p ++ s) p = true := by
  simp [hasPrefix]

theorem trimPrefix_append (p s : List UInt8) : trimPrefix (p ++ s) p = s := by
  simp [trimPrefix]

/-- An ASCII byte of the encoding of a space is the whole encoding: the others encode
multi-byte runes, all of whose bytes are at least `0x80`. -/
theorem eq_singleton_of_mem_spaceEncodings :
    ∀ enc ∈ spaceEncodings, ∀ b ∈ enc, b < 0x80 → enc = [b] := by
  decide

theorem ne_nil_of_mem_spaceEncodings : ∀ enc ∈ spaceEncodings, enc ≠ [] := by
  decide

theorem trimLeftSpace_of_find_none {s : List UInt8}
    (h : spaceEncodings.find? (·.isPrefixOf s) = none) : ∀ fuel, trimLeftSpace fuel s = s
  | 0 => rfl
  | _ + 1 => by rw [trimLeftSpace, h]

theorem trimRightSpace_of_find_none {s : List UInt8}
    (h : spaceEncodings.find? (·.isSuffixOf s) = none) : ∀ fuel, trimRightSpace fuel s = s
  | 0 => rfl
  | _ + 1 => by rw [trimRightSpace, h]

theorem trimSpace_of_find_none {s : List UInt8}
    (hl : spaceEncodings.find? (·.isPrefixOf s) = none)
    (hr : spaceEncodings.find? (·.isSuffixOf s) = none) : trimSpace s = s := by
  simp only [trimSpace, trimLeftSpace_of_find_none hl, trimRightSpace_of_find_none hr]

/-- A non-empty string that `strings.TrimSpace` leaves alone neither starts nor ends with a
space. -/
theorem find_none_of_trimSpace_eq {s : List UInt8} (hs : s ≠ []) (h : trimSpace s = s) :
    spaceEncodings.find? (·.isPrefixOf s) = none ∧
      spaceEncodings.find? (·.isSuffixOf s) = none := by
  obtain ⟨k, hk⟩ : ∃ k, s.length = k + 1 := Nat.exists_eq_succ_of_ne_zero (by simpa using hs)
  have hleft : trimLeftSpace s.length s = s := by
    have h₁ := trimLeftSpace_suffix s.length s
    have h₂ := trimRightSpace_isPrefix (trimLeftSpace s.length s).length
      (trimLeftSpace s.length s)
    rw [show trimRightSpace _ (trimLeftSpace s.length s) = s from h] at h₂
    exact h₁.eq_of_length (Nat.le_antisymm h₁.length_le h₂.length_le)
  have hright : trimRightSpace s.length s = s := by
    rw [trimSpace, hleft] at h
    exact h
  constructor
  · rcases hf : spaceEncodings.find? (·.isPrefixOf s) with _ | enc
    · exact hf
    have hne := ne_nil_of_mem_spaceEncodings _ (List.mem_of_find?_eq_some hf)
    have hlen := congrArg List.length hleft
    rw [hk, trimLeftSpace, hf] at hlen
    have := (trimLeftSpace_suffix k (s.drop enc.length)).length_le
    have := List.length_pos.2 hne
    simp only [List.length_drop] at *
    omega
  · rcases hf : spaceEncodings.find? (·.isSuffixOf s) with _ | enc
    · exact hf
    have hne := ne_nil_of_mem_spaceEncodings _ (List.mem_of_find?_eq_some hf)
    have hlen := congrArg List.length hright
    rw [hk, trimRightSpace, hf] at hlen
    have := (trimRightSpace_isPrefix k (s.take (s.length - enc.length))).length_le
    have := List.length_pos.2 hne
    simp only [List.length_take] at *
    omega

/-- No space starts with a byte that no encoding of a space starts with. -/
theorem find_isPrefixOf_cons_eq_none {b : UInt8}
    (hb : ∀ enc ∈ spaceEncodings, enc.head? ≠ some b) (s : List UInt8) :
    spaceEncodings.find? (·.isPrefixOf (b :: s)) = none := by
  rw [List.find?_eq_none]
  intro enc henc hp
  rcases enc with _ | ⟨y, ys⟩
  · exact ne_nil_of_mem_spaceEncodings _ henc rfl
  · simp only [List.isPrefixOf, Bool.and_eq_true, beq_iff_eq] at hp
    exact hb _ henc (by simp [hp.1])

/-- A space that ends `a ++ x :: s`, for an ASCII byte `x` and a non-empty `s`, ends `s`. -/
theorem find_isSuffixOf_append_eq_none {a s : List UInt8} {x : UInt8} (hx : x < 0x80)
    (hs : s ≠ []) (h : spaceEncodings.find? (·.isSuffixOf s) = none) :
    spaceEncodings.find? (·.isSuffixOf (a ++ x :: s)) = none := by
  rw [List.find?_eq_none] at h ⊢
  intro enc henc hsuf
  rw [List.isSuffixOf_iff_suffix] at hsuf
  rcases List.suffix_or_suffix_of_suffix hsuf (List.suffix_append a (x :: s)) with h₁ | h₁
  · rcases List.suffix_cons_iff.1 h₁ with rfl | h₂
    · have := eq_singleton_of_mem_spaceEncodings _ henc x (List.mem_cons_self _ _) hx
      exact hs (List.cons_eq_cons.1 this).2
    · exact h enc henc (List.isSuffixOf_iff_suffix.2 h₂)
  · have := eq_singleton_of_mem_spaceEncodings _ henc x (h₁.subset (List.mem_cons_self _ _)) hx
    subst this
    have := h₁.length_le
    simp only [List.length_cons, List.length_nil] at this
    exact hs (List.length_eq_zero.1 (by omega))

/-- A line that starts with a byte no space starts with, and ends with an ASCII byte then a
trimmed, non-empty value, is its own `strings.TrimSpace`. -/
theorem trimSpace_cons_append {b x : UInt8} {a s : List UInt8}
    (hb : ∀ enc ∈ spaceEncodings, enc.head? ≠ some b) (hx : x < 0x80) (hs : s ≠ [])
    (h : trimSpace s = s) : trimSpace (b :: a ++ x :: s) = b :: a ++ x :: s :=
  trimSpace_of_find_none (find_isPrefixOf_cons_eq_none hb _)
    (find_isSuffixOf_append_eq_none (a := b :: a) hx hs (find_none_of_trimSpace_eq hs h).2)

/-- A leading blank is one rune of `strings.TrimLeftFunc`. -/
theorem trimLeftSpace_space_cons (fuel : Nat) (s : List UInt8) :
    trimLeftSpace (fuel + 1) (' '.toUInt8 :: s) = trimLeftSpace fuel s := by
  rw [trimLeftSpace]
  rcases hf : spaceEncodings.find? (·.isPrefixOf (' '.toUInt8 :: s)) with _ | enc
  · exact absurd (List.find?_eq_none.1 hf [' '.toUInt8] (by decide)) (by simp)
  · have hmem := List.mem_of_find?_eq_some hf
    have hp := List.find?_some hf
    rcases enc with _ | ⟨y, ys⟩
    · exact absurd rfl (ne_nil_of_mem_spaceEncodings _ hmem)
    · simp only [List.isPrefixOf, Bool.and_eq_true, beq_iff_eq] at hp
      obtain rfl := hp.1
      rw [hf, eq_singleton_of_mem_spaceEncodings _ hmem _ (List.mem_cons_self _ _) (by decide)]
      rfl

theorem trimLeftSpace_replicate_append (s : List UInt8) (fuel : Nat) :
    ∀ n, trimLeftSpace (n + fuel) (List.replicate n ' '.toUInt8 ++ s) = trimLeftSpace fuel s
  | 0 => by rw [Nat.zero_add, List.replicate_zero, List.nil_append]
  | n + 1 => by
    rw [Nat.add_right_comm, List.replicate_succ, List.cons_append, trimLeftSpace_space_cons,
      trimLeftSpace_replicate_append s fuel n]

/-- `strings.TrimSpace` of blanks and a trimmed, non-empty value is the value. -/
theorem trimSpace_replicate_append {s : List UInt8} (hs : s ≠ []) (h : trimSpace s = s)
    (n : Nat) :
    trimSpace (List.replicate n ' '.toUInt8 ++ s) = s := by
  obtain ⟨hl, hr⟩ := find_none_of_trimSpace_eq hs h
  simp only [trimSpace, List.length_append, List.length_replicate,
    trimLeftSpace_replicate_append, trimLeftSpace_of_find_none hl, trimRightSpace_of_find_none hr]

theorem trimSpace_space_cons {s : List UInt8} (hs : s ≠ []) (h : trimSpace s = s) :
    trimSpace (' '.toUInt8 :: s) = s :=
  trimSpace_replicate_append hs h 1

/-! ## Splitting and joining -/

/-- No piece that `strings.Split` returns holds the separator. -/
theorem not_mem_of_mem_split {sep : UInt8} :
    ∀ {s l : List UInt8}, l ∈ split s sep → sep ∉ l
  | [], l, h => by
    rw [List.mem_singleton.mp h]
    exact List.not_mem_nil _
  | x :: xs, l, h => by
    have ih : ∀ {l}, l ∈ xs.splitOnP (· == sep) → sep ∉ l := not_mem_of_mem_split
    unfold split List.splitOn at h
    rw [List.splitOnP_cons] at h
    split_ifs at h with hx
    · rcases List.mem_cons.mp h with rfl | h
      · exact List.not_mem_nil _
      · exact ih h
    · obtain ⟨t, ts, ht⟩ := List.exists_cons_of_ne_nil (List.splitOnP_ne_nil (· == sep) xs)
      rw [ht] at h ih
      rcases List.mem_cons.mp h with rfl | h
      · rw [List.mem_cons, not_or]
        exact ⟨fun e => hx (by simp [e]), ih (List.mem_cons_self _ _)⟩
      · exact ih (List.mem_cons_of_mem _ h)

/-- A byte in none of the pieces and not in the separator is not in `strings.Join`. -/
theorem not_mem_join {b : UInt8} {sep : List UInt8} (hsep : b ∉ sep) :
    ∀ {elems : List (List UInt8)}, (∀ l ∈ elems, b ∉ l) → b ∉ join elems sep
  | [], _ => List.not_mem_nil _
  | [l], h => by simpa [join, List.intercalate] using h l (List.mem_singleton_self l)
  | l :: l' :: ls, h => by
    have ih : b ∉ join (l' :: ls) sep :=
      not_mem_join hsep fun l hl => h l (List.mem_cons_of_mem _ hl)
    simp only [join, List.intercalate, List.intersperse_cons₂, List.flatten_cons,
      List.mem_append, not_or] at ih ⊢
    exact ⟨h l (List.mem_cons_self _ _), hsep, ih⟩

@[simp] theorem join_singleton (l sep : List UInt8) : join [l] sep = l := by
  simp [join, List.intercalate]

theorem join_cons_cons (l l' : List UInt8) (ls : List (List UInt8)) (sep : List UInt8) :
    join (l :: l' :: ls) sep = l ++ sep ++ join (l' :: ls) sep := by
  simp [join, List.intercalate, List.intersperse_cons₂, List.append_assoc]

theorem join_cons_ne_nil {l : List UInt8} (ls : List (List UInt8)) (sep : List UInt8)
    (hl : l ≠ []) : join (l :: ls) sep ≠ [] := by
  rcases ls with _ | ⟨l', ls⟩
  · rwa [join_singleton]
  · rw [join_cons_cons, List.append_assoc]
    exact fun h => hl (List.append_eq_nil.1 h).1

/-- `strings.Split` on a byte inverts `strings.Join` with it, for pieces without it. -/
theorem split_join {sep : UInt8} {elems : List (List UInt8)} (h : ∀ l ∈ elems, sep ∉ l)
    (hne : elems ≠ []) : split (join elems [sep]) sep = elems :=
  List.splitOn_intercalate elems sep h hne

/-! ## Paths

`filepath.Join` and `filepath.Clean` on Unix, by the standard library's rules: a path is
processed lexically, one element (the text between two separators) at a time. -/

/-- The elements `filepath.Clean` keeps, in order: empty and `.` elements go, and `..` removes
the element before it; a `..` with none before it stays in a relative path and goes in a rooted
one. `acc` holds the kept elements, last first. -/
def cleanElements (rooted : Bool) : List (List Char) → List (List Char) → List (List Char)
  | acc, [] => acc.reverse
  | acc, e :: es =>
    if e = [] ∨ e = ['.'] then cleanElements rooted acc es
    else if e = ['.', '.'] then
      match acc with
      | top :: rest =>
        if top = ['.', '.'] then cleanElements rooted (['.', '.'] :: acc) es
        else cleanElements rooted rest es
      | [] => cleanElements rooted (if rooted then [] else [['.', '.']]) es
    else cleanElements rooted (e :: acc) es

/-- `filepath.Clean`: the shortest path that names the same file by lexical processing, and
`.` when nothing is left. -/
def cleanPath (path : String) : String :=
  let rooted := path.toList.head? = some '/'
  let cleaned := (if rooted then ['/'] else []) ++
    ['/'].intercalate (cleanElements rooted [] (path.toList.splitOn '/'))
  if cleaned = [] then "." else String.mk cleaned

/-- `filepath.Join`: the elements from the first non-empty one, joined by the separator and
cleaned; `""` when every element is empty. -/
def joinPath (elems : List String) : String :=
  match elems.dropWhile (· = "") with
  | [] => ""
  | rest => cleanPath ("/".intercalate rest)

example : joinPath ["/tmp/", "mcp_c1.json"] = "/tmp/mcp_c1.json" := by decide

end Shelley.Go
