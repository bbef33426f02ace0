import Utp.Util.Hostname

/-! # IPv6 texts

The grammar of address texts next to the parser of `Util.isIPv6`. The parser
reads every address text, and two kinds of text besides: eight groups with a
`::` among them, and a text with a bracket on one side only.
-/

namespace Utp

namespace Ipv6

open Util

def hexDigits : List Char :=
  ['0', '1', '2', '3', '4', '5', '6', '7', '8', '9', 'a', 'b', 'c', 'd', 'e', 'f',
    'A', 'B', 'C', 'D', 'E', 'F']

/-- One group of an address: one to four hexadecimal digits. -/
structure Group where
  digits : List Char
  nonempty : digits ≠ []
  short : digits.length ≤ 4
  hex : ∀ c ∈ digits, c ∈ hexDigits

/-- The groups in order, single colons between them. -/
def colons (groups : List Group) : List Char :=
  [':'].intercalate (groups.map Group.digits)

/-- Two runs of groups on the sides of a `::`. -/
def compressed (before after : List Group) : List Char :=
  colons before ++ ':' :: ':' :: colons after

/-- An address text: eight groups, or at most seven around a `::` that stands for
the groups left out. -/
inductive Address : List Char → Prop
  | full (groups : List Group) : groups.length = 8 → Address (colons groups)
  | short (before after : List Group) : before.length + after.length ≤ 7 →
      Address (compressed before after)

/-- Eight groups around a `::` that has nothing left to stand for. -/
inductive Crowded : List Char → Prop
  | mk (before after : List Group) : before.length + after.length = 8 →
      Crowded (compressed before after)

/-- The text itself, or the text in a pair of square brackets. -/
def Enclosed (body text : List Char) : Prop :=
  text = body ∨ text = '[' :: (body ++ [']'])

/-- A bracket before or after the text, without its partner. -/
def HalfOpen (body text : List Char) : Prop :=
  text = '[' :: body ∨ text = body ++ [']']

/-- The hostnames that are address texts. -/
def IsAddress (hostname : String) : Prop :=
  ∃ body, Address body ∧ Enclosed body hostname.toList

/-- The hostnames the parser lets through although they are not address texts. -/
def Overlooked (hostname : String) : Prop :=
  (∃ body, Crowded body ∧ Enclosed body hostname.toList) ∨
    ∃ body, (Address body ∨ Crowded body) ∧ HalfOpen body hostname.toList

/-! ## Groups -/

/-- The listed digits are the ones the regular expression has in its class. -/
theorem mem_hexDigits (c : Char) :
    c ∈ hexDigits ↔ (c.isDigit || ('a' ≤ c && c ≤ 'f') || ('A' ≤ c && c ≤ 'F')) = true := by
  simp only [hexDigits, List.mem_cons, List.not_mem_nil, or_false, Char.isDigit, Char.le_def,
    Char.ext_iff, UInt32.le_iff_toNat_le, ← UInt32.toNat_inj, Bool.or_eq_true,
    Bool.and_eq_true, decide_eq_true_eq, ge_iff_le]
  simp only [Char.reduceVal, UInt32.reduceToNat]
  omega

/-- The test of a part accepts exactly the groups. -/
theorem isHexGroup_iff (part : List Char) :
    isHexGroup part = true ↔ ∃ group : Group, group.digits = part := by
  constructor
  · intro hpart
    simp only [isHexGroup, Bool.and_eq_true, decide_eq_true_eq, List.all_eq_true] at hpart
    obtain ⟨⟨hpos, hshort⟩, hhex⟩ := hpart
    exact ⟨⟨part, List.ne_nil_of_length_pos hpos, hshort,
      fun c hc => (mem_hexDigits c).mpr (hhex c hc)⟩, by simp⟩
  · rintro ⟨group, rfl⟩
    simp only [isHexGroup, Bool.and_eq_true, decide_eq_true_eq, List.all_eq_true]
    exact ⟨⟨List.length_pos_iff.mpr group.nonempty, group.short⟩,
      fun c hc => (mem_hexDigits c).mp (group.hex c hc)⟩

/-- A list of parts that all pass the check is a list of groups. -/
theorem all_isHexGroup_iff (parts : List (List Char)) :
    parts.all isHexGroup = true ↔ ∃ groups : List Group, groups.map Group.digits = parts := by
  induction parts with
  | nil => simp
  | cons part parts ih =>
    simp only [List.all_cons, Bool.and_eq_true, isHexGroup_iff, ih]
    constructor
    · rintro ⟨⟨group, rfl⟩, groups, rfl⟩
      exact ⟨group :: groups, by simp⟩
    · rintro ⟨_ | ⟨group, groups⟩, hgroups⟩
      · simp at hgroups
      · obtain ⟨hgroup, hgroups⟩ := List.cons.inj hgroups
        exact ⟨⟨group, hgroup⟩, groups, hgroups⟩

/-- A group has no colon in it. -/
theorem Group.no_colon (group : Group) : ':' ∉ group.digits := by
  intro hcolon
  have hhex := group.hex ':' hcolon
  simp [hexDigits] at hhex

@[simp] theorem colons_nil : colons [] = [] := by simp [colons]

@[simp] theorem colons_singleton (group : Group) : colons [group] = group.digits := by
  simp [colons]

theorem colons_cons_cons (first second : Group) (groups : List Group) :
    colons (first :: second :: groups) =
      first.digits ++ ':' :: colons (second :: groups) := by
  simp [colons, List.intercalate_cons_cons]

/-- A run of groups starts with a digit. -/
theorem colons_cons_head (group : Group) (groups : List Group) :
    ∃ c rest, colons (group :: groups) = c :: rest ∧ c ≠ ':' := by
  obtain ⟨c, digits, hdigits⟩ := List.exists_cons_of_ne_nil group.nonempty
  have hc : c ≠ ':' := by
    rintro rfl
    apply group.no_colon
    simp [hdigits]
  cases groups with
  | nil => exact ⟨c, digits, by simp [hdigits], hc⟩
  | cons second groups =>
    exact ⟨c, digits ++ ':' :: colons (second :: groups),
      by simp [colons_cons_cons, hdigits], hc⟩

/-- Splitting at the colons gives the groups back. -/
theorem groupsOf_colons (groups : List Group) :
    groupsOf (colons groups) = groups.map Group.digits := by
  cases groups with
  | nil => simp [groupsOf]
  | cons group groups =>
    obtain ⟨c, rest, hcolons, -⟩ := colons_cons_head group groups
    have hne : colons (group :: groups) ≠ [] := by simp [hcolons]
    rw [groupsOf, if_neg hne, colons]
    apply List.splitOn_intercalate
    · intro part hpart
      obtain ⟨group, -, rfl⟩ := List.mem_map.mp hpart
      exact group.no_colon
    · simp

/-- Two runs of groups with the same text have the same length. -/
theorem length_of_colons_eq {groups groups' : List Group} (h : colons groups = colons groups') :
    groups.length = groups'.length := by
  have hparts : groups.map Group.digits = groups'.map Group.digits := by
    rw [← groupsOf_colons, h, groupsOf_colons]
  simpa using congrArg List.length hparts

/-- A part whose pieces are groups is their run. -/
theorem eq_colons_of_groupsOf {part : List Char} {groups : List Group}
    (h : groups.map Group.digits = groupsOf part) : part = colons groups := by
  rw [colons, h, groupsOf]
  split <;> simp [*]

/-! ## The split at the double colon -/

/-- Characters other than a colon go to the part being read. -/
theorem splitDoubleColon_digits (current digits rest : List Char) (h : ':' ∉ digits) :
    splitDoubleColon current (digits ++ rest) =
      splitDoubleColon (digits.reverse ++ current) rest := by
  induction digits generalizing current with
  | nil => simp
  | cons c digits ih =>
    have hc : c ≠ ':' := fun heq => h (by simp [heq])
    have hdigits : ':' ∉ digits := fun hmem => h (by simp [hmem])
    rw [List.cons_append, splitDoubleColon.eq_2 _ _ _ (fun _ heq => absurd heq hc), ih _ hdigits]
    simp

/-- A colon before another character belongs to the part being read. -/
theorem splitDoubleColon_colon (current rest : List Char) {c : Char} (h : c ≠ ':') :
    splitDoubleColon current (':' :: c :: rest) =
      splitDoubleColon (':' :: current) (c :: rest) := by
  apply splitDoubleColon.eq_2
  intro rest' _ hrest
  exact h (List.cons.inj hrest).1

/-- No double colon inside a run of groups, nor where it meets the one after it. -/
theorem splitDoubleColon_colons (current : List Char) (groups : List Group) (rest : List Char) :
    splitDoubleColon current (colons groups ++ rest) =
      splitDoubleColon ((colons groups).reverse ++ current) rest := by
  induction groups generalizing current with
  | nil => simp
  | cons first groups ih =>
    cases groups with
    | nil => simpa using splitDoubleColon_digits current first.digits rest first.no_colon
    | cons second groups =>
      obtain ⟨c, after, hafter, hc⟩ := colons_cons_head second groups
      calc splitDoubleColon current (colons (first :: second :: groups) ++ rest)
          = splitDoubleColon (first.digits.reverse ++ current)
              (':' :: (colons (second :: groups) ++ rest)) := by
            rw [colons_cons_cons, List.append_assoc,
              splitDoubleColon_digits _ _ _ first.no_colon, List.cons_append]
        _ = splitDoubleColon (':' :: (first.digits.reverse ++ current))
              (colons (second :: groups) ++ rest) := by
            rw [hafter, List.cons_append, splitDoubleColon_colon _ _ hc]
        _ = splitDoubleColon ((colons (first :: second :: groups)).reverse ++ current) rest := by
            rw [ih, colons_cons_cons]
            simp

/-- A text with single colons only is not split at a `::`. -/
theorem splitDoubleColon_full (groups : List Group) :
    splitDoubleColon [] (colons groups) = [colons groups] := by
  have h := splitDoubleColon_colons [] groups []
  simpa [splitDoubleColon] using h

/-- A text with one `::` is split into its two sides. -/
theorem splitDoubleColon_compressed (before after : List Group) :
    splitDoubleColon [] (compressed before after) = [colons before, colons after] := by
  rw [compressed, splitDoubleColon_colons, splitDoubleColon, splitDoubleColon_full]
  simp

/-- A split has at least one part. -/
theorem splitDoubleColon_ne_nil (current text : List Char) :
    splitDoubleColon current text ≠ [] := by
  induction current, text using splitDoubleColon.induct with
  | case1 current rest ih => simp [splitDoubleColon]
  | case2 current c rest hne ih => rwa [splitDoubleColon.eq_2 _ _ _ hne]
  | case3 current => simp [splitDoubleColon]

/-- The parts with the separator between them are the text. -/
theorem intercalate_splitDoubleColon (current text : List Char) :
    [':', ':'].intercalate (splitDoubleColon current text) = current.reverse ++ text := by
  induction current, text using splitDoubleColon.induct with
  | case1 current rest ih =>
    obtain ⟨part, parts, hparts⟩ :=
      List.exists_cons_of_ne_nil (splitDoubleColon_ne_nil [] rest)
    rw [splitDoubleColon, hparts, List.intercalate_cons_cons, ← hparts, ih]
    simp
  | case2 current c rest hne ih =>
    rw [splitDoubleColon.eq_2 _ _ _ hne, ih]
    simp
  | case3 current => simp [splitDoubleColon]

/-! ## The parser -/

/-- What `isIPv6` asks of the text without its brackets. -/
def readsBody (body : List Char) : Bool :=
  match splitDoubleColon [] body with
  | [_] =>
      let parts := body.splitOn ':'
      parts.length = 8 && parts.all isHexGroup
  | [before, after] =>
      let groups := groupsOf before ++ groupsOf after
      groups.length ≤ 8 && groups.all isHexGroup
  | _ => false

/-- The parser strips the brackets and reads the body. -/
theorem isIPv6_eq (hostname : String) :
    isIPv6 hostname = readsBody (stripBrackets hostname.toList) := by
  rfl

/-- Eight groups are accepted. -/
theorem readsBody_full (groups : List Group) (h : groups.length = 8) :
    readsBody (colons groups) = true := by
  have hne : colons groups ≠ [] := by
    intro hnil
    have hparts := groupsOf_colons groups
    rw [hnil, groupsOf, if_pos rfl] at hparts
    have hnone := congrArg List.length hparts
    simp [h] at hnone
  have hparts : (colons groups).splitOn ':' = groups.map Group.digits := by
    rw [← groupsOf_colons, groupsOf, if_neg hne]
  have hhex : (groups.map Group.digits).all isHexGroup = true :=
    (all_isHexGroup_iff _).mpr ⟨groups, rfl⟩
  simp [readsBody, splitDoubleColon_full, hparts, h, hhex]

/-- At most eight groups around a `::` are accepted, one more than an address has. -/
theorem readsBody_compressed (before after : List Group)
    (h : before.length + after.length ≤ 8) :
    readsBody (compressed before after) = true := by
  have hhex : (before.map Group.digits ++ after.map Group.digits).all isHexGroup = true :=
    (all_isHexGroup_iff _).mpr ⟨before ++ after, List.map_append⟩
  simp only [readsBody, splitDoubleColon_compressed, groupsOf_colons, hhex]
  simpa using h

/-- The parser reads the address texts and the crowded ones, and nothing else. -/
theorem readsBody_iff (body : List Char) :
    readsBody body = true ↔ Address body ∨ Crowded body := by
  constructor
  · intro hreads
    have hjoin := intercalate_splitDoubleColon [] body
    unfold readsBody at hreads
    split at hreads
    · -- No double colon: the parts are the eight groups.
      simp only [Bool.and_eq_true, decide_eq_true_eq] at hreads
      obtain ⟨groups, hgroups⟩ := (all_isHexGroup_iff _).mp hreads.2
      have hbody : body = colons groups := by
        rw [colons, hgroups, List.intercalate_splitOn]
      left
      rw [hbody]
      apply Address.full
      rw [← hreads.1, ← hgroups, List.length_map]
    · -- One double colon: the groups on its sides, eight of them at most.
      next before after hsplit =>
      simp only [Bool.and_eq_true, decide_eq_true_eq] at hreads
      obtain ⟨groups, hgroups⟩ := (all_isHexGroup_iff _).mp hreads.2
      obtain ⟨left, right, rfl, hleft, hright⟩ := List.map_eq_append_iff.mp hgroups
      have hbody : body = compressed left right := by
        rw [compressed, ← eq_colons_of_groupsOf hleft, ← eq_colons_of_groupsOf hright]
        simpa [hsplit] using hjoin.symm
      have hlength : left.length + right.length ≤ 8 := by
        simpa [← hleft, ← hright] using hreads.1
      rw [hbody]
      by_cases hcrowded : left.length + right.length = 8
      · exact Or.inr (Crowded.mk left right hcrowded)
      · exact Or.inl (Address.short left right (by omega))
    · simp at hreads
  · rintro (hbody | hbody)
    · cases hbody with
      | full groups h => exact readsBody_full groups h
      | short before after h => exact readsBody_compressed before after (by omega)
    · cases hbody with
      | mk before after h => exact readsBody_compressed before after (by omega)

/-! ## Brackets -/

/-- Texts without a bracket, as every body the parser reads is. -/
def Bare (body : List Char) : Prop :=
  '[' ∉ body ∧ ']' ∉ body

/-- The characters of a run of groups. -/
theorem mem_colons {c : Char} {groups : List Group} (h : c ∈ colons groups) :
    c = ':' ∨ c ∈ hexDigits := by
  induction groups with
  | nil => simp at h
  | cons first groups ih =>
    cases groups with
    | nil => exact Or.inr (first.hex c (by simpa using h))
    | cons second groups =>
      rw [colons_cons_cons] at h
      rcases List.mem_append.mp h with hfirst | hrest
      · exact Or.inr (first.hex c hfirst)
      · rcases List.mem_cons.mp hrest with hcolon | hmem
        · exact Or.inl hcolon
        · exact ih hmem

/-- The characters of two runs around a `::`. -/
theorem mem_compressed {c : Char} {before after : List Group} (h : c ∈ compressed before after) :
    c = ':' ∨ c ∈ hexDigits := by
  simp only [compressed, List.mem_append, List.mem_cons] at h
  rcases h with hbefore | hcolon | hcolon | hafter
  · exact mem_colons hbefore
  · exact Or.inl hcolon
  · exact Or.inl hcolon
  · exact mem_colons hafter

/-- The bodies the parser reads are colons and digits. -/
theorem mem_body {c : Char} {body : List Char} (h : Address body ∨ Crowded body)
    (hc : c ∈ body) : c = ':' ∨ c ∈ hexDigits := by
  rcases h with hbody | hbody
  · cases hbody with
    | full groups h => exact mem_colons hc
    | short before after h => exact mem_compressed hc
  · cases hbody with
    | mk before after h => exact mem_compressed hc

/-- What the parser accepts as a body has no bracket. -/
theorem bare_of_body {body : List Char} (h : Address body ∨ Crowded body) : Bare body := by
  constructor
  · intro hopen
    simpa [hexDigits] using mem_body h hopen
  · intro hclose
    simpa [hexDigits] using mem_body h hclose

def unopened (text : List Char) : List Char :=
  match text with
  | '[' :: rest => rest
  | text => text

def unclosed (text : List Char) : List Char :=
  match text.reverse with
  | ']' :: rest => rest.reverse
  | _ => text

/-- The brackets are stripped one at a time, the opening one first. -/
theorem stripBrackets_eq (text : List Char) :
    stripBrackets text = unclosed (unopened text) := by
  rfl

@[simp] theorem unopened_open (text : List Char) : unopened ('[' :: text) = text := by
  rfl

@[simp] theorem unclosed_close (text : List Char) : unclosed (text ++ [']']) = text := by
  simp [unclosed]

/-- A text without an opening bracket stays as it is. -/
theorem unopened_of_bare {text : List Char} (h : text.head? ≠ some '[') :
    unopened text = text := by
  unfold unopened
  split
  · simp at h
  · rfl

/-- A text without a closing bracket stays as it is. -/
theorem unclosed_of_bare {text : List Char} (h : ']' ∉ text) : unclosed text = text := by
  unfold unclosed
  split
  · next rest hrest =>
    exfalso
    apply h
    rw [← List.mem_reverse, hrest]
    simp
  · rfl

theorem unopened_cases (text : List Char) : text = unopened text ∨ text = '[' :: unopened text := by
  unfold unopened
  split
  · exact Or.inr rfl
  · exact Or.inl rfl

theorem unclosed_cases (text : List Char) :
    text = unclosed text ∨ text = unclosed text ++ [']'] := by
  unfold unclosed
  split
  · next rest hrest =>
    right
    simpa using congrArg List.reverse hrest
  · exact Or.inl rfl

/-- What is left of a text around what was stripped from it. -/
theorem stripBrackets_cases (text : List Char) :
    Enclosed (stripBrackets text) text ∨ HalfOpen (stripBrackets text) text := by
  rw [stripBrackets_eq]
  rcases unopened_cases text with hopen | hopen <;>
    rcases unclosed_cases (unopened text) with hclose | hclose <;>
    rw [hclose] at hopen
  · exact Or.inl (Or.inl hopen)
  · exact Or.inr (Or.inr hopen)
  · exact Or.inr (Or.inl hopen)
  · exact Or.inl (Or.inr hopen)

/-- A bare text comes out of every combination of brackets around it. -/
theorem stripBrackets_of_shape {body text : List Char} (h : Bare body)
    (htext : Enclosed body text ∨ HalfOpen body text) : stripBrackets text = body := by
  have hopen : body.head? ≠ some '[' := by
    intro hhead
    exact h.1 (List.mem_of_head? hhead)
  have hclosed : (body ++ [']']).head? ≠ some '[' := by
    cases body with
    | nil => simp
    | cons c body => simpa using hopen
  rw [stripBrackets_eq]
  rcases htext with (rfl | rfl) | (rfl | rfl)
  · rw [unopened_of_bare hopen, unclosed_of_bare h.2]
  · rw [unopened_open, unclosed_close]
  · rw [unopened_open, unclosed_of_bare h.2]
  · rw [unopened_of_bare hclosed, unclosed_close]

/-! ## What the check accepts -/

/-- The check accepts the address texts and the overlooked ones. -/
theorem isIPv6_iff (hostname : String) :
    isIPv6 hostname = true ↔ IsAddress hostname ∨ Overlooked hostname := by
  rw [isIPv6_eq, readsBody_iff]
  constructor
  · intro hbody
    rcases stripBrackets_cases hostname.toList with henclosed | hhalf
    · rcases hbody with haddress | hcrowded
      · exact Or.inl ⟨_, haddress, henclosed⟩
      · exact Or.inr (Or.inl ⟨_, hcrowded, henclosed⟩)
    · exact Or.inr (Or.inr ⟨_, hbody, hhalf⟩)
  · rintro (⟨body, hbody, hshape⟩ | ⟨body, hbody, hshape⟩ | ⟨body, hbody, hshape⟩)
    · rw [stripBrackets_of_shape (bare_of_body (Or.inl hbody)) (Or.inl hshape)]
      exact Or.inl hbody
    · rw [stripBrackets_of_shape (bare_of_body (Or.inr hbody)) (Or.inl hshape)]
      exact Or.inr hbody
    · rw [stripBrackets_of_shape (bare_of_body hbody) (Or.inr hshape)]
      exact hbody

/-- A crowded text is no address: the two sides of its `::` are read off it. -/
theorem not_address_of_crowded {body : List Char} (h : Crowded body) : ¬ Address body := by
  obtain ⟨before, after, hcount⟩ := h
  intro haddress
  have hsplit := splitDoubleColon_compressed before after
  generalize hbody : compressed before after = body at haddress hsplit
  cases haddress with
  | full groups hgroups =>
    rw [splitDoubleColon_full] at hsplit
    simp at hsplit
  | short left right hroom =>
    rw [splitDoubleColon_compressed] at hsplit
    obtain ⟨hleft, hright⟩ := List.cons.inj hsplit
    have hbefore := length_of_colons_eq hleft
    have hafter := length_of_colons_eq (List.cons.inj hright).1
    omega

/-- The brackets around a bare text are either a pair or a single one. -/
theorem not_halfOpen_of_enclosed {body body' text : List Char} (h : Bare body) (h' : Bare body')
    (henclosed : Enclosed body text) : ¬ HalfOpen body' text := by
  rintro (rfl | rfl)
  · rcases henclosed with heq | heq
    · apply h.1
      simp [← heq]
    · have hbody := (List.cons.inj heq).2
      apply h'.2
      simp [hbody]
  · rcases henclosed with heq | heq
    · apply h.2
      simp [← heq]
    · apply h'.1
      rw [← List.cons_append] at heq
      have hbody := List.append_cancel_right heq
      simp [hbody]

/-- The overlooked texts are no addresses. -/
theorem not_overlooked_of_isAddress {hostname : String} (h : IsAddress hostname) :
    ¬ Overlooked hostname := by
  obtain ⟨body, hbody, henclosed⟩ := h
  have hbare := bare_of_body (Or.inl hbody)
  rintro (⟨other, hother, hshape⟩ | ⟨other, hother, hshape⟩)
  · -- The same text without its brackets is both an address and crowded.
    have hstrip := stripBrackets_of_shape hbare (Or.inl henclosed)
    rw [stripBrackets_of_shape (bare_of_body (Or.inr hother)) (Or.inl hshape)] at hstrip
    rw [hstrip] at hother
    exact not_address_of_crowded hother hbody
  · exact not_halfOpen_of_enclosed hbare (bare_of_body hother) henclosed hshape

/-- The check tells the address texts from all others exactly on the texts that
are not overlooked. -/
theorem isIPv6_exact_iff (hostname : String) :
    (isIPv6 hostname = true ↔ IsAddress hostname) ↔ ¬ Overlooked hostname := by
  rw [isIPv6_iff]
  constructor
  · intro hexact hoverlooked
    exact not_overlooked_of_isAddress (hexact.mp (Or.inr hoverlooked)) hoverlooked
  · intro hclear
    constructor
    · rintro (haddress | hoverlooked)
      · exact haddress
      · exact absurd hoverlooked hclear
    · exact Or.inl

/-- The parser accepts every overlooked text. -/
theorem accepted_of_overlooked {hostname : String} (h : Overlooked hostname) :
    isIPv6 hostname = true ∧ ¬ IsAddress hostname := by
  constructor
  · rw [isIPv6_iff]
    exact Or.inr h
  · intro haddress
    exact not_overlooked_of_isAddress haddress h

/-- A single digit as a group. -/
def digit (c : Char) (h : c ∈ hexDigits) : Group where
  digits := [c]
  nonempty := by simp
  short := by simp
  hex := by simpa using h

/-- A loopback address with one bracket, and eight groups around a `::`. -/
theorem isIPv6_exact_fails :
    (isIPv6 "[::1" = true ∧ ¬ IsAddress "[::1") ∧
      isIPv6 "1:2:3:4::5:6:7:8" = true ∧ ¬ IsAddress "1:2:3:4::5:6:7:8" := by
  constructor
  · apply accepted_of_overlooked
    right
    refine ⟨compressed [] [digit '1' (by decide)], Or.inl (Address.short _ _ (by decide)), ?_⟩
    exact Or.inl (by decide)
  · apply accepted_of_overlooked
    left
    refine ⟨compressed
      [digit '1' (by decide), digit '2' (by decide), digit '3' (by decide), digit '4' (by decide)]
      [digit '5' (by decide), digit '6' (by decide), digit '7' (by decide), digit '8' (by decide)],
      Crowded.mk _ _ (by decide), ?_⟩
    exact Or.inl (by decide)

end Ipv6

end Utp
