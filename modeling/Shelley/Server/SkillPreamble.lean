import Shelley.Go.Basic

/-! # Skill preambles

`parseSkillPreamble` and `loadSkillPreambles` of `server/system_prompt.go`. A `SKILL.md` file
starts with a YAML frontmatter between `---` lines; the parser takes the `name:` and
`description:` fields from it (a description written `|` or `>` from the indented lines that
follow) and returns `name: description` for the system prompt.

The frontmatter is `content[4 : endIdx+3]`, where `endIdx` is the offset of `"\n---"` in
`content[3:]`. Its upper bound is always in range (`index_add_le`), its lower bound is not:
for a file that starts `---\n---`, an empty frontmatter, `endIdx` is `0` and `content[4:3]`
panics. That is the only panic of the parser (`parseSkillPreamble_eq_error`), and the loader
panics exactly when an installed skill's file starts that way
(`loadSkillPreambles_eq_error`, `loadSkillPreambles_empty_frontmatter`). What the parser
returns holds no newline, so each skill is one line of the prompt
(`parseSkillPreamble_one_line`), and a file written in the format reads back as its name and
description (`parseSkillPreamble_skillFile`, `parseSkillPreamble_skillBlockFile`). -/

namespace Shelley.Server
open Shelley.Go

/-- The inner loop of the `description: |` case: the trimmed lines that start with a space or
a tab, skipping empty lines, up to the first other line. -/
def multilineDescription : List (List UInt8) → Except RuntimeError (List (List UInt8))
  | [] => .ok []
  | line :: rest =>
    if line.length = 0 then multilineDescription rest
    else do
      let b ← byteAt line 0
      if b = ' '.toUInt8 ∨ b = '\t'.toUInt8 then
        let more ← multilineDescription rest
        return trimSpace line :: more
      else return []

/-- The loop over the frontmatter's lines from `lines` on, with the `name` and `description`
the earlier lines left. -/
def scanFields : List (List UInt8) → List UInt8 → List UInt8 →
    Except RuntimeError (List UInt8 × List UInt8)
  | [], name, description => .ok (name, description)
  | line :: rest, name, description =>
    let trimmed := trimSpace line
    if hasPrefix trimmed (lit "name:") then
      scanFields rest (trimSpace (trimPrefix trimmed (lit "name:"))) description
    else if hasPrefix trimmed (lit "description:") then
      let value := trimSpace (trimPrefix trimmed (lit "description:"))
      if value ≠ [] ∧ value ≠ lit "|" ∧ value ≠ lit ">" then scanFields rest name value
      else do
        let multiline ← multilineDescription rest
        scanFields rest name (join multiline (lit " "))
    else scanFields rest name description

/-- `parseSkillPreamble`: `name: description`, the name alone, or the empty string. -/
def parseSkillPreamble (content : List UInt8) : Except RuntimeError (List UInt8) := do
  if !hasPrefix content (lit "---") then return []
  let rest ← slice content 3 content.length
  match index rest (lit "\n---") with
  | none => return []
  | some endIdx =>
    let frontmatter ← slice content 4 (endIdx + 3)
    let (name, description) ← scanFields (split frontmatter '\n'.toUInt8) [] []
    if name = [] then return []
    if description = [] then return name
    return name ++ lit ": " ++ description

/-- An entry of `~/.config/shelley/skills`: whether it is a directory, and what
`os.ReadFile` returns for its `SKILL.md` (`none` for an error). -/
structure SkillEntry where
  isDir : Bool
  skillFile : Option (List UInt8)
  deriving DecidableEq, Repr

/-- The loop of `loadSkillPreambles` over the directory's entries. -/
def collectPreambles : List SkillEntry → Except RuntimeError (List (List UInt8))
  | [] => .ok []
  | entry :: entries =>
    if !entry.isDir then collectPreambles entries
    else match entry.skillFile with
      | none => collectPreambles entries
      | some content => do
        let preamble ← parseSkillPreamble content
        let more ← collectPreambles entries
        return if preamble ≠ [] then preamble :: more else more

/-- `loadSkillPreambles`; `entries` is what `os.ReadDir` returns for the skills directory,
`none` for an error. -/
def loadSkillPreambles (entries : Option (List SkillEntry)) :
    Except RuntimeError (List (List UInt8)) :=
  match entries with
  | none => .ok []
  | some entries => collectPreambles entries

/-! ## The line loops do not panic -/

theorem multilineDescription_ok :
    ∀ lines : List (List UInt8), ∃ v, multilineDescription lines = .ok v
  | [] => ⟨[], rfl⟩
  | [] :: rest => by
    obtain ⟨v, hv⟩ := multilineDescription_ok rest
    exact ⟨v, by rw [multilineDescription, if_pos List.length_nil, hv]⟩
  | (b :: line) :: rest => by
    obtain ⟨v, hv⟩ := multilineDescription_ok rest
    unfold multilineDescription
    rw [if_neg (by simp)]
    show ∃ w, (if b = ' '.toUInt8 ∨ b = '\t'.toUInt8 then _ else _) = _
    split
    · exact ⟨_, by rw [hv]; rfl⟩
    · exact ⟨_, rfl⟩

theorem scanFields_ok :
    ∀ (lines : List (List UInt8)) (name description : List UInt8),
      ∃ r, scanFields lines name description = .ok r
  | [], name, description => ⟨(name, description), rfl⟩
  | line :: rest, name, description => by
    unfold scanFields
    dsimp only
    split
    · exact scanFields_ok rest _ _
    · split
      · split
        · exact scanFields_ok rest _ _
        · obtain ⟨v, hv⟩ := multilineDescription_ok rest
          obtain ⟨r, hr⟩ := scanFields_ok rest name (join v (lit " "))
          exact ⟨r, by rw [hv]; exact hr⟩
      · exact scanFields_ok rest _ _

/-! ## The frontmatter slice -/

/-- A file starts `---\n---` exactly when it starts with `---` and `"\n---"` follows. -/
theorem emptyFrontmatter_iff {content : List UInt8} :
    lit "---\n---" <+: content ↔ lit "---" <+: content ∧ lit "\n---" <+: content.drop 3 := by
  have hlit : lit "---\n---" = lit "---" ++ lit "\n---" := rfl
  refine ⟨fun h => ⟨(List.prefix_append _ _).trans (hlit ▸ h), ?_⟩, fun ⟨h3, h⟩ => ?_⟩
  · have := List.prefix_iff_eq_append.mp ((List.prefix_append _ _).trans (hlit ▸ h))
    rw [← this, hlit, List.prefix_append_right_inj] at h
    exact h
  · rw [← List.prefix_iff_eq_append.mp h3, hlit, List.prefix_append_right_inj]
    exact h

/-- The upper bound of the frontmatter slice is in range: `endIdx + 3 ≤ len(content)`. -/
theorem index_add_le {content : List UInt8} {endIdx : Nat}
    (h : index (content.drop 3) (lit "\n---") = some endIdx) : endIdx + 3 ≤ content.length := by
  have := (index_eq_some h).length_le
  have h4 : (lit "\n---").length = 4 := rfl
  simp only [List.length_drop] at this
  omega

/-- **The parser's only panic.** `parseSkillPreamble` panics exactly on a file that starts
`---\n---`, where `content[4:3]` is out of range; on every other file it returns. -/
theorem parseSkillPreamble_eq_error {content : List UInt8} {e : RuntimeError} :
    parseSkillPreamble content = .error e ↔
      lit "---\n---" <+: content ∧ e = .sliceBoundsOutOfRange 4 3 content.length := by
  rw [emptyFrontmatter_iff]
  unfold parseSkillPreamble
  by_cases hp : lit "---" <+: content
  · have hlen : 3 ≤ content.length := hp.length_le
    rw [hasPrefix, List.isPrefixOf_iff_prefix.mpr hp, Bool.not_true, if_neg Bool.false_ne_true,
      pure_bind, slice_eq_ok hlen le_rfl, List.take_length, ok_bind]
    rcases hi : index (content.drop 3) (lit "\n---") with _ | endIdx
    · have : ¬ lit "\n---" <+: content.drop 3 := fun h => by
        rw [index_eq_some_zero.mpr h] at hi
        cases hi
      simp [this]
    · by_cases h0 : endIdx = 0
      · -- the closing marker right after the opening one
        subst h0
        dsimp only
        rw [slice_eq_error (by decide), error_bind]
        simp [hp, index_eq_some_zero.mp hi, eq_comm]
      · have : ¬ lit "\n---" <+: content.drop 3 := fun h => h0 (by
          rw [index_eq_some_zero.mpr h] at hi
          cases hi
          rfl)
        obtain ⟨r, hr⟩ :=
          scanFields_ok (split ((content.take (endIdx + 3)).drop 4) '\n'.toUInt8) [] []
        dsimp only
        rw [slice_eq_ok (by omega) (index_add_le hi), ok_bind, hr, ok_bind]
        split_ifs <;> simp [this]
  · have hp' : hasPrefix content (lit "---") = false := by
      rw [hasPrefix, ← Bool.not_eq_true, List.isPrefixOf_iff_prefix]
      exact hp
    simp [hp', hp]

/-! ## A preamble is one line -/

theorem multilineDescription_one_line :
    ∀ {lines v : List (List UInt8)}, (∀ l ∈ lines, '\n'.toUInt8 ∉ l) →
      multilineDescription lines = .ok v → ∀ l ∈ v, '\n'.toUInt8 ∉ l
  | [], _, _, h => by
    cases h
    exact fun _ => (List.not_mem_nil _).elim
  | [] :: rest, _, hl, h => by
    rw [multilineDescription, if_pos List.length_nil] at h
    exact multilineDescription_one_line (fun l h' => hl l (List.mem_cons_of_mem _ h')) h
  | (b :: line) :: rest, v, hl, h => by
    unfold multilineDescription at h
    rw [if_neg (by simp)] at h
    change (if b = ' '.toUInt8 ∨ b = '\t'.toUInt8 then _ else _) = _ at h
    split at h
    · obtain ⟨more, hr, ⟨⟩⟩ := bind_eq_ok.mp h
      intro l hl'
      rcases List.mem_cons.mp hl' with rfl | hl'
      · exact fun hm => hl _ (List.mem_cons_self _ _) ((trimSpace_isInfix _).subset hm)
      · exact multilineDescription_one_line (fun l h' => hl l (List.mem_cons_of_mem _ h')) hr l hl'
    · cases h
      exact fun _ => (List.not_mem_nil _).elim

theorem scanFields_one_line :
    ∀ {lines : List (List UInt8)} {name description : List UInt8} {r : List UInt8 × List UInt8},
      (∀ l ∈ lines, '\n'.toUInt8 ∉ l) → '\n'.toUInt8 ∉ name → '\n'.toUInt8 ∉ description →
      scanFields lines name description = .ok r → '\n'.toUInt8 ∉ r.1 ∧ '\n'.toUInt8 ∉ r.2
  | [], _, _, _, _, hn, hd, h => by
    cases h
    exact ⟨hn, hd⟩
  | line :: rest, name, description, r, hl, hn, hd, h => by
    have hline : '\n'.toUInt8 ∉ trimSpace line := fun hm =>
      hl line (List.mem_cons_self _ _) ((trimSpace_isInfix _).subset hm)
    have hfield : ∀ pre, '\n'.toUInt8 ∉ trimSpace (trimPrefix (trimSpace line) pre) := fun pre hm =>
      hline ((trimPrefix_suffix _ pre).subset ((trimSpace_isInfix _).subset hm))
    have hrest : ∀ l ∈ rest, '\n'.toUInt8 ∉ l := fun l h' => hl l (List.mem_cons_of_mem _ h')
    unfold scanFields at h
    dsimp only at h
    split at h
    · exact scanFields_one_line hrest (hfield _) hd h
    · split at h
      · split at h
        · exact scanFields_one_line hrest hn (hfield _) h
        · obtain ⟨v, hm, h⟩ := bind_eq_ok.mp h
          exact scanFields_one_line hrest hn
            (not_mem_join (by decide) (multilineDescription_one_line hrest hm)) h
      · exact scanFields_one_line hrest hn hd h

/-- **A preamble is one line.** What `parseSkillPreamble` returns holds no newline, so each
skill is one line of the system prompt. -/
theorem parseSkillPreamble_one_line {content p : List UInt8}
    (h : parseSkillPreamble content = .ok p) : '\n'.toUInt8 ∉ p := by
  unfold parseSkillPreamble at h
  split at h
  · cases h
    exact List.not_mem_nil _
  · obtain ⟨rest, -, h⟩ := bind_eq_ok.mp (by simpa only [pure_bind] using h)
    rcases hi : index rest (lit "\n---") with _ | endIdx <;> simp only [hi] at h
    · cases h
      exact List.not_mem_nil _
    · obtain ⟨fm, -, h⟩ := bind_eq_ok.mp h
      obtain ⟨r, hr, h⟩ := bind_eq_ok.mp h
      obtain ⟨hn, hd⟩ := scanFields_one_line (fun l hl => not_mem_of_mem_split hl)
        (List.not_mem_nil _) (List.not_mem_nil _) hr
      split_ifs at h <;> simp only [pure_eq_ok, Except.ok.injEq] at h <;> subst h
      · exact List.not_mem_nil _
      · exact hn
      · simp only [List.mem_append, not_or]
        exact ⟨⟨hn, by decide⟩, hd⟩

theorem parseSkillPreamble_folded :
    parseSkillPreamble (lit "---\nname: pdf\ndescription: >\n  Fill\n  forms\n---\n") =
      .ok (lit "pdf: Fill forms") ∧ '\n'.toUInt8 ∉ lit "pdf: Fill forms" :=
  have h : parseSkillPreamble (lit "---\nname: pdf\ndescription: >\n  Fill\n  forms\n---\n") =
      .ok (lit "pdf: Fill forms") := by
    set_option maxRecDepth 20000 in rfl
  ⟨h, parseSkillPreamble_one_line h⟩

/-! ## The skill format reads back -/

/-- A line of a frontmatter followed by a newline does not start the closing `\n---`. -/
theorem isPrefixOf_closing {l rest : List UInt8} (hhead : l.head? ≠ some '-'.toUInt8) :
    (lit "\n---").isPrefixOf ('\n'.toUInt8 :: (l ++ '\n'.toUInt8 :: rest)) = false := by
  rcases l with _ | ⟨b, l⟩
  · rfl
  · have hb : ('-'.toUInt8 == b) = false := beq_false_of_ne fun h => hhead (by rw [h]; rfl)
    show (('\n'.toUInt8 == '\n'.toUInt8) && (('-'.toUInt8 == b) &&
      List.isPrefixOf ['-'.toUInt8, '-'.toUInt8] (l ++ '\n'.toUInt8 :: rest))) = false
    rw [hb, Bool.false_and, Bool.and_false]

/-- `content[3:]` finds the closing `\n---` right after the frontmatter, when no line of it
holds a newline or starts with `-`. -/
theorem index_frontmatter (body : List UInt8) :
    ∀ {lines : List (List UInt8)}, lines ≠ [] →
      (∀ l ∈ lines, '\n'.toUInt8 ∉ l ∧ l.head? ≠ some '-'.toUInt8) →
      index ('\n'.toUInt8 :: (join lines (lit "\n") ++ lit "\n---\n" ++ body)) (lit "\n---") =
        some ((join lines (lit "\n")).length + 1)
  | [], hne, _ => absurd rfl hne
  | [l], _, hl => by
    obtain ⟨hnl, hhead⟩ := hl l (List.mem_singleton_self l)
    have hline : '\n'.toUInt8 :: (join [l] (lit "\n") ++ lit "\n---\n" ++ body) =
        '\n'.toUInt8 :: (l ++ '\n'.toUInt8 :: (lit "---\n" ++ body)) := by
      rw [join_singleton, List.append_assoc]
      rfl
    have hsep : lit "\n---" = '\n'.toUInt8 :: lit "---" := rfl
    have hclose : index ('\n'.toUInt8 :: (lit "---\n" ++ body)) ('\n'.toUInt8 :: lit "---") =
        some 0 := index_eq_some_zero.2 ⟨'\n'.toUInt8 :: body, rfl⟩
    rw [hline, index_cons_of_not_prefix (isPrefixOf_closing hhead), hsep,
      index_append_of_not_mem hnl, hclose, join_singleton]
    simp only [Option.map_some', Option.some.injEq]
    omega
  | l :: l' :: ls, _, hl => by
    obtain ⟨hnl, hhead⟩ := hl l (List.mem_cons_self _ _)
    have ih := index_frontmatter body (List.cons_ne_nil l' ls)
      (fun x hx => hl x (List.mem_cons_of_mem _ hx))
    have hline : '\n'.toUInt8 :: (join (l :: l' :: ls) (lit "\n") ++ lit "\n---\n" ++ body) =
        '\n'.toUInt8 :: (l ++ '\n'.toUInt8 ::
          (join (l' :: ls) (lit "\n") ++ lit "\n---\n" ++ body)) := by
      rw [join_cons_cons]
      simp only [List.append_assoc]
      rfl
    have hsep : lit "\n---" = '\n'.toUInt8 :: lit "---" := rfl
    rw [hline, index_cons_of_not_prefix (isPrefixOf_closing hhead), hsep,
      index_append_of_not_mem hnl, ← hsep, ih, join_cons_cons]
    simp only [Option.map_some', Option.some.injEq, List.length_append,
      show (lit "\n").length = 1 from rfl]
    omega

/-- The frontmatter slice `content[4 : endIdx+3]` is the frontmatter. -/
theorem slice_frontmatter (frontmatter body : List UInt8) :
    slice (lit "---\n" ++ frontmatter ++ lit "\n---\n" ++ body) 4 (frontmatter.length + 1 + 3) =
      .ok frontmatter := by
  have h4 : (lit "---\n").length = 4 := rfl
  have hlen : (lit "---\n" ++ frontmatter).length = frontmatter.length + 1 + 3 := by
    rw [List.length_append, h4]
    omega
  rw [List.append_assoc, slice_eq_ok (by omega) (by rw [List.length_append, hlen]; omega),
    List.take_left' hlen, List.drop_left' h4]

/-- A file of the format reaches the field loop with the frontmatter's lines. -/
theorem parseSkillPreamble_frontmatter {lines : List (List UInt8)} (body : List UInt8)
    (hne : lines ≠ []) (hl : ∀ l ∈ lines, '\n'.toUInt8 ∉ l ∧ l.head? ≠ some '-'.toUInt8) :
    parseSkillPreamble (lit "---\n" ++ join lines (lit "\n") ++ lit "\n---\n" ++ body) = do
      let (name, description) ← scanFields lines [] []
      if name = [] then return []
      if description = [] then return name
      return name ++ lit ": " ++ description := by
  have hopen : lit "---\n" ++ join lines (lit "\n") ++ lit "\n---\n" ++ body =
      lit "---" ++ ('\n'.toUInt8 :: (join lines (lit "\n") ++ lit "\n---\n" ++ body)) := by
    simp only [List.append_assoc]
    rfl
  have h3 : (lit "---").length = 3 := rfl
  have hlen : 3 ≤ (lit "---\n" ++ join lines (lit "\n") ++ lit "\n---\n" ++ body).length := by
    rw [hopen, List.length_append, h3]
    omega
  have hsplit : split (join lines (lit "\n")) '\n'.toUInt8 = lines :=
    split_join (fun l h => (hl l h).1) hne
  unfold parseSkillPreamble
  rw [hopen, hasPrefix_append, ← hopen, Bool.not_true, if_neg Bool.false_ne_true, pure_bind,
    slice_eq_ok hlen le_rfl, List.take_length, ok_bind, hopen, List.drop_left' h3,
    index_frontmatter body hne hl, ← hopen]
  dsimp only
  rw [slice_frontmatter, ok_bind, hsplit]

/-- The frontmatter of a skill: a `name` line and a `description` line. -/
def skillFrontmatter (name description : List UInt8) : List UInt8 :=
  join [lit "name: " ++ name, lit "description: " ++ description] (lit "\n")

/-- A `SKILL.md` in the skill format: the frontmatter between `---` lines, then the body. -/
def skillFile (name description body : List UInt8) : List UInt8 :=
  lit "---\n" ++ skillFrontmatter name description ++ lit "\n---\n" ++ body

section
variable {name description : List UInt8}

/-- The `name` line can stand in a frontmatter: it holds no newline and starts with `n`. -/
theorem nameLine_frontmatter (hnl : '\n'.toUInt8 ∉ name) :
    '\n'.toUInt8 ∉ lit "name: " ++ name ∧ (lit "name: " ++ name).head? ≠ some '-'.toUInt8 := by
  rw [List.mem_append, not_or, show (lit "name: " ++ name).head? = some 'n'.toUInt8 from rfl]
  exact ⟨⟨by decide, hnl⟩, by decide⟩

/-- The `description` line can stand in a frontmatter: it holds no newline and starts with
`d`. -/
theorem descriptionLine_frontmatter (hdl : '\n'.toUInt8 ∉ description) :
    '\n'.toUInt8 ∉ lit "description: " ++ description ∧
      (lit "description: " ++ description).head? ≠ some '-'.toUInt8 := by
  rw [List.mem_append, not_or,
    show (lit "description: " ++ description).head? = some 'd'.toUInt8 from rfl]
  exact ⟨⟨by decide, hdl⟩, by decide⟩

/-- The `name` line of the frontmatter is its own trim, and its value is the name. -/
theorem trimSpace_nameLine (hn : name ≠ []) (hnt : trimSpace name = name) :
    trimSpace (lit "name: " ++ name) = lit "name: " ++ name ∧
      trimSpace (trimPrefix (lit "name: " ++ name) (lit "name:")) = name := by
  refine ⟨?_, ?_⟩
  · rw [show lit "name: " ++ name = 'n'.toUInt8 :: lit "ame:" ++ ' '.toUInt8 :: name from rfl]
    exact trimSpace_cons_append (by decide) (by decide) hn hnt
  · rw [show lit "name: " ++ name = lit "name:" ++ ' '.toUInt8 :: name from rfl,
      trimPrefix_append, trimSpace_space_cons hn hnt]

/-- The `description` line of the frontmatter is its own trim, and its value is the
description. -/
theorem trimSpace_descriptionLine (hd : description ≠ []) (hdt : trimSpace description = description) :
    trimSpace (lit "description: " ++ description) = lit "description: " ++ description ∧
      trimSpace (trimPrefix (lit "description: " ++ description) (lit "description:")) =
        description := by
  refine ⟨?_, ?_⟩
  · rw [show lit "description: " ++ description =
      'd'.toUInt8 :: lit "escription:" ++ ' '.toUInt8 :: description from rfl]
    exact trimSpace_cons_append (by decide) (by decide) hd hdt
  · rw [show lit "description: " ++ description =
      lit "description:" ++ ' '.toUInt8 :: description from rfl,
      trimPrefix_append, trimSpace_space_cons hd hdt]

/-- The field loop reads the two lines back: the name, then the description. -/
theorem scanFields_skillFields (hn : name ≠ []) (hnt : trimSpace name = name)
    (hd : description ≠ []) (hdt : trimSpace description = description)
    (hblock : description ≠ lit "|" ∧ description ≠ lit ">") :
    scanFields [lit "name: " ++ name, lit "description: " ++ description] [] [] =
      .ok (name, description) := by
  obtain ⟨ht₁, hv₁⟩ := trimSpace_nameLine hn hnt
  obtain ⟨ht₂, hv₂⟩ := trimSpace_descriptionLine hd hdt
  have hother : hasPrefix (lit "description: " ++ description) (lit "name:") = false := rfl
  simp only [scanFields, ht₁, ht₂, hother, hv₁, hv₂,
    show hasPrefix (lit "name: " ++ name) (lit "name:") = true from hasPrefix_append _ _,
    show hasPrefix (lit "description: " ++ description) (lit "description:") = true from
      hasPrefix_append _ _]
  simp [hd, hblock]

end

/-- **The skill format reads back.** For a name and a description that are one line each,
trimmed and not empty, with a description other than `|` and `>` (which announce a block), the
parser returns `name: description`, whatever the body. -/
theorem parseSkillPreamble_skillFile {name description body : List UInt8}
    (hname : name ≠ [] ∧ trimSpace name = name ∧ '\n'.toUInt8 ∉ name)
    (hdesc : description ≠ [] ∧ trimSpace description = description ∧
      '\n'.toUInt8 ∉ description)
    (hblock : description ≠ lit "|" ∧ description ≠ lit ">") :
    parseSkillPreamble (skillFile name description body) =
      .ok (name ++ lit ": " ++ description) := by
  obtain ⟨hn, hnt, hnl⟩ := hname
  obtain ⟨hd, hdt, hdl⟩ := hdesc
  rw [skillFile, skillFrontmatter, parseSkillPreamble_frontmatter body (List.cons_ne_nil _ _)]
  · rw [scanFields_skillFields hn hnt hd hdt hblock, ok_bind]
    simp [hn, hd]
  · intro l hl
    rcases List.mem_pair.1 hl with rfl | rfl
    exacts [nameLine_frontmatter hnl, descriptionLine_frontmatter hdl]

theorem parseSkillPreamble_skillFile_pdf :
    (lit "pdf" ≠ [] ∧ trimSpace (lit "pdf") = lit "pdf" ∧ '\n'.toUInt8 ∉ lit "pdf") ∧
    (lit "Fill forms" ≠ [] ∧ trimSpace (lit "Fill forms") = lit "Fill forms" ∧
      '\n'.toUInt8 ∉ lit "Fill forms") ∧
    (lit "Fill forms" ≠ lit "|" ∧ lit "Fill forms" ≠ lit ">") ∧
    parseSkillPreamble (skillFile (lit "pdf") (lit "Fill forms") (lit "# PDF\n")) =
      .ok (lit "pdf" ++ lit ": " ++ lit "Fill forms") :=
  have hname : lit "pdf" ≠ [] ∧ trimSpace (lit "pdf") = lit "pdf" ∧
      '\n'.toUInt8 ∉ lit "pdf" := by decide
  have hdesc : lit "Fill forms" ≠ [] ∧ trimSpace (lit "Fill forms") = lit "Fill forms" ∧
      '\n'.toUInt8 ∉ lit "Fill forms" := by decide
  have hblock : lit "Fill forms" ≠ lit "|" ∧ lit "Fill forms" ≠ lit ">" := by decide
  ⟨hname, hdesc, hblock, parseSkillPreamble_skillFile hname hdesc hblock⟩

/-- The frontmatter of a skill whose description is a block: the `description: |` or
`description: >` line, then the block's lines, indented by two blanks. -/
def skillBlockFrontmatter (name marker : List UInt8) (block : List (List UInt8)) : List UInt8 :=
  join ([lit "name: " ++ name, lit "description: " ++ marker] ++ block.map (lit "  " ++ ·))
    (lit "\n")

/-- A `SKILL.md` whose description is a block. -/
def skillBlockFile (name marker : List UInt8) (block : List (List UInt8)) (body : List UInt8) :
    List UInt8 :=
  lit "---\n" ++ skillBlockFrontmatter name marker block ++ lit "\n---\n" ++ body

/-- The block's lines, trimmed, are the description's. -/
theorem multilineDescription_block :
    ∀ {block : List (List UInt8)}, (∀ l ∈ block, l ≠ [] ∧ trimSpace l = l) →
      multilineDescription (block.map (lit "  " ++ ·)) = .ok block
  | [], _ => rfl
  | l :: block, h => by
    obtain ⟨hne, ht⟩ := h l (List.mem_cons_self _ _)
    have hlen : (lit "  " ++ l).length ≠ 0 := by
      rw [List.length_append, show (lit "  ").length = 2 from rfl]
      omega
    rw [List.map_cons, multilineDescription, if_neg hlen,
      show byteAt (lit "  " ++ l) 0 = .ok ' '.toUInt8 from rfl, ok_bind, if_pos (.inl rfl),
      multilineDescription_block (fun x hx => h x (List.mem_cons_of_mem _ hx)), ok_bind,
      show lit "  " ++ l = List.replicate 2 ' '.toUInt8 ++ l from rfl,
      trimSpace_replicate_append hne ht]
    rfl

/-- The field loop goes on over the block's lines, which set no field when none starts with a
key. -/
theorem scanFields_block {name description : List UInt8} :
    ∀ {block : List (List UInt8)}, (∀ l ∈ block, l ≠ [] ∧ trimSpace l = l ∧
      hasPrefix l (lit "name:") = false ∧ hasPrefix l (lit "description:") = false) →
      scanFields (block.map (lit "  " ++ ·)) name description = .ok (name, description)
  | [], _ => rfl
  | l :: block, h => by
    obtain ⟨hne, ht, hn, hd⟩ := h l (List.mem_cons_self _ _)
    rw [List.map_cons, scanFields]
    dsimp only
    rw [show lit "  " ++ l = List.replicate 2 ' '.toUInt8 ++ l from rfl,
      trimSpace_replicate_append hne ht, hn, hd, if_neg Bool.false_ne_true,
      if_neg Bool.false_ne_true]
    exact scanFields_block (fun x hx => h x (List.mem_cons_of_mem _ hx))

/-- The field loop reads a block description back: the name, then the block's lines joined by
blanks. -/
theorem scanFields_blockFields {name marker : List UInt8} {block : List (List UInt8)}
    (hn : name ≠ []) (hnt : trimSpace name = name)
    (hmarker : marker = lit "|" ∨ marker = lit ">")
    (hblock : ∀ l ∈ block, l ≠ [] ∧ trimSpace l = l ∧
      hasPrefix l (lit "name:") = false ∧ hasPrefix l (lit "description:") = false) :
    scanFields ((lit "name: " ++ name) :: (lit "description: " ++ marker) ::
      block.map (lit "  " ++ ·)) [] [] = .ok (name, join block (lit " ")) := by
  obtain ⟨ht₁, hv₁⟩ := trimSpace_nameLine hn hnt
  have hm : marker ≠ [] ∧ trimSpace marker = marker ∧
      ¬(marker ≠ [] ∧ marker ≠ lit "|" ∧ marker ≠ lit ">") := by
    rcases hmarker with rfl | rfl <;> decide
  obtain ⟨ht₂, hv₂⟩ := trimSpace_descriptionLine hm.1 hm.2.1
  have hother : hasPrefix (lit "description: " ++ marker) (lit "name:") = false := rfl
  simp only [scanFields, ht₁, ht₂, hother, hv₁, hv₂,
    show hasPrefix (lit "name: " ++ name) (lit "name:") = true from hasPrefix_append _ _,
    show hasPrefix (lit "description: " ++ marker) (lit "description:") = true from
      hasPrefix_append _ _, if_true, if_neg hm.2.2, Bool.false_eq_true, if_false]
  rw [multilineDescription_block (fun l hl => ⟨(hblock l hl).1, (hblock l hl).2.1⟩), ok_bind,
    scanFields_block hblock]

/-- **A block description reads back.** For a one-line, trimmed, non-empty name and a block
description (`|` or `>`) of non-empty, trimmed lines indented by two blanks, none of which
starts with `name:` or `description:` (the field loop reads the block's lines as fields too),
the parser returns the name and the block's lines joined by blanks, for `|` as for `>`. -/
theorem parseSkillPreamble_skillBlockFile {name marker body : List UInt8}
    {block : List (List UInt8)}
    (hname : name ≠ [] ∧ trimSpace name = name ∧ '\n'.toUInt8 ∉ name)
    (hmarker : marker = lit "|" ∨ marker = lit ">")
    (hblock : block ≠ [] ∧ ∀ l ∈ block, l ≠ [] ∧ trimSpace l = l ∧ '\n'.toUInt8 ∉ l ∧
      hasPrefix l (lit "name:") = false ∧ hasPrefix l (lit "description:") = false) :
    parseSkillPreamble (skillBlockFile name marker block body) =
      .ok (name ++ lit ": " ++ join block (lit " ")) := by
  obtain ⟨hn, hnt, hnl⟩ := hname
  obtain ⟨hne, hl⟩ := hblock
  have hjoin : join block (lit " ") ≠ [] := by
    obtain ⟨l, ls, rfl⟩ := List.exists_cons_of_ne_nil hne
    exact join_cons_ne_nil ls _ (hl l (List.mem_cons_self _ _)).1
  have hlines : ∀ line ∈ [lit "name: " ++ name, lit "description: " ++ marker] ++
      block.map (lit "  " ++ ·), '\n'.toUInt8 ∉ line ∧ line.head? ≠ some '-'.toUInt8 := by
    intro line hline
    rcases List.mem_append.1 hline with hline | hline
    · rcases List.mem_pair.1 hline with rfl | rfl
      · exact nameLine_frontmatter hnl
      · exact descriptionLine_frontmatter (by rcases hmarker with rfl | rfl <;> decide)
    · obtain ⟨l, hmem, rfl⟩ := List.mem_map.1 hline
      refine ⟨?_, by rw [show (lit "  " ++ l).head? = some ' '.toUInt8 from rfl]; decide⟩
      rw [List.mem_append, not_or]
      exact ⟨by decide, (hl l hmem).2.2.1⟩
  rw [skillBlockFile, skillBlockFrontmatter, parseSkillPreamble_frontmatter body (by simp) hlines,
    List.cons_append, List.singleton_append,
    scanFields_blockFields hn hnt hmarker
      (fun l h => ⟨(hl l h).1, (hl l h).2.1, (hl l h).2.2.2⟩),
    ok_bind]
  simp [hn, hjoin]

theorem parseSkillPreamble_skillBlockFile_folded :
    (lit "pdf" ≠ [] ∧ trimSpace (lit "pdf") = lit "pdf" ∧ '\n'.toUInt8 ∉ lit "pdf") ∧
    (lit ">" = lit "|" ∨ lit ">" = lit ">") ∧
    ([lit "Fill", lit "forms"] ≠ [] ∧ ∀ l ∈ [lit "Fill", lit "forms"], l ≠ [] ∧
      trimSpace l = l ∧ '\n'.toUInt8 ∉ l ∧ hasPrefix l (lit "name:") = false ∧
      hasPrefix l (lit "description:") = false) ∧
    parseSkillPreamble (skillBlockFile (lit "pdf") (lit ">") [lit "Fill", lit "forms"] []) =
      .ok (lit "pdf" ++ lit ": " ++ join [lit "Fill", lit "forms"] (lit " ")) :=
  have hname : lit "pdf" ≠ [] ∧ trimSpace (lit "pdf") = lit "pdf" ∧
      '\n'.toUInt8 ∉ lit "pdf" := by decide
  have hmarker : lit ">" = lit "|" ∨ lit ">" = lit ">" := .inr rfl
  have hblock : [lit "Fill", lit "forms"] ≠ [] ∧
      ∀ l ∈ [lit "Fill", lit "forms"], l ≠ [] ∧ trimSpace l = l ∧ '\n'.toUInt8 ∉ l ∧
        hasPrefix l (lit "name:") = false ∧ hasPrefix l (lit "description:") = false := by
    decide
  ⟨hname, hmarker, hblock, parseSkillPreamble_skillBlockFile hname hmarker hblock⟩

/-- The test's `description: >` file: the indented lines are joined with spaces. -/
example : (parseSkillPreamble (lit "---\nname: pdf-processor\ndescription: >\n  Process PDF files including extraction,\n  form filling, and merging.\n---\n# PDF Processor\n")).toOption =
    some (lit "pdf-processor: Process PDF files including extraction, form filling, and merging.") := by
  set_option maxRecDepth 20000 in decide

/-! ## Loading the skills -/

/-- A directory whose `SKILL.md` the loader reads and finds starting `---\n---`. -/
def SkillEntry.EmptyFrontmatter (entry : SkillEntry) : Prop :=
  entry.isDir ∧ ∃ content, entry.skillFile = some content ∧ lit "---\n---" <+: content

theorem collectPreambles_eq_error :
    ∀ {entries : List SkillEntry},
      (∃ e, collectPreambles entries = .error e) ↔ ∃ entry ∈ entries, entry.EmptyFrontmatter
  | [] => by simp [collectPreambles]
  | entry :: entries => by
    have ih : (∃ e, collectPreambles entries = .error e) ↔
        ∃ entry ∈ entries, entry.EmptyFrontmatter := collectPreambles_eq_error
    match entry with
    | ⟨false, _⟩ | ⟨true, none⟩ => simpa [collectPreambles, SkillEntry.EmptyFrontmatter] using ih
    | ⟨true, some content⟩ =>
      rcases hp : parseSkillPreamble content with e | p
      · have := (parseSkillPreamble_eq_error.mp hp).1
        simp only [collectPreambles, hp]
        exact ⟨fun _ => ⟨_, List.mem_cons_self _ _, rfl, content, rfl, this⟩, fun _ => ⟨e, rfl⟩⟩
      · have hn : ¬ lit "---\n---" <+: content := fun h => by
          have := parseSkillPreamble_eq_error.mpr ⟨h, rfl⟩
          rw [hp] at this
          cases this
        rcases hc : collectPreambles entries with e | v <;>
          simp [collectPreambles, hp, hc, SkillEntry.EmptyFrontmatter, hn] at ih ⊢ <;> exact ih

/-- **The loader's panic.** `loadSkillPreambles` panics exactly when the skills directory has
a directory whose `SKILL.md` starts `---\n---`. -/
theorem loadSkillPreambles_eq_error {entries : Option (List SkillEntry)} :
    (∃ e, loadSkillPreambles entries = .error e) ↔
      ∃ es, entries = some es ∧ ∃ entry ∈ es, entry.EmptyFrontmatter := by
  rcases entries with _ | es
  · simp [loadSkillPreambles]
  · simpa [loadSkillPreambles] using collectPreambles_eq_error

/-- A skill directory whose `SKILL.md` has an empty frontmatter: `content[4:3]` panics, and
the panic leaves `loadSkillPreambles`. -/
theorem loadSkillPreambles_empty_frontmatter :
    loadSkillPreambles (some [⟨true, some (lit "---\n---\n# Notes\n")⟩]) =
      .error (.sliceBoundsOutOfRange 4 3 16) :=
  rfl

end Shelley.Server
