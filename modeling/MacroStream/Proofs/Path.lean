import MacroStream.Path

/-!
# Laws of paths

How the components of a path come from the components of what it was joined from: joining a relative
path puts components behind those of the directory, so the directory's own stay in front. An
absolute path stands for itself, wherever it is joined.

The other way round, a path that ends in a name has a parent, and the parent has all components but
this name (`exists_parent?_of_fileName?`). This is not said by the spelling, which may have
separators and dots around the name that count for nothing: `dropIgnored` takes them away and keeps
the components.
-/

namespace MacroStream

namespace Path

/-! ### Cutting at separators -/

theorem pieces_ne_nil (cs : List Char) : pieces cs ≠ [] := by
  cases cs with
  | nil => simp [pieces]
  | cons c cs =>
    rw [pieces]
    split
    · simp
    · split <;> simp

theorem pieces_cons_of_ne {c : Char} (h : c ≠ '/') {cs p : List Char} {ps : List (List Char)}
    (hcs : pieces cs = p :: ps) : pieces (c :: cs) = (c :: p) :: ps := by
  rw [pieces, hcs]
  exact if_neg h

theorem pieces_slash (cs : List Char) : pieces ('/' :: cs) = [] :: pieces cs := by
  cases h : pieces cs with
  | nil => exact absurd h (pieces_ne_nil cs)
  | cons p ps => rw [pieces, h]; rfl

/-- A separator stands between the pieces of what is before it and those of what is behind it. -/
theorem pieces_append_slash (cs ds : List Char) :
    pieces (cs ++ '/' :: ds) = pieces cs ++ pieces ds := by
  induction cs with
  | nil => exact pieces_slash ds
  | cons c cs ih =>
    rw [List.cons_append]
    by_cases hc : c = '/'
    · rw [hc, pieces_slash, pieces_slash, ih, List.cons_append]
    · cases h : pieces cs with
      | nil => exact absurd h (pieces_ne_nil cs)
      | cons p ps =>
        rw [h] at ih
        rw [pieces_cons_of_ne hc h, pieces_cons_of_ne hc ih]
        rfl

theorem pieces_of_not_mem {cs : List Char} (h : '/' ∉ cs) : pieces cs = [cs] := by
  induction cs with
  | nil => rfl
  | cons c cs ih =>
    obtain ⟨hc, hcs⟩ := not_or.1 (mt List.mem_cons.2 h)
    exact pieces_cons_of_ne (Ne.symm hc) (ih hcs)

/-- A text without a separator, or one that is cut at its last separator. -/
theorem exists_last_slash (cs : List Char) :
    '/' ∉ cs ∨ ∃ before behind, cs = before ++ '/' :: behind ∧ '/' ∉ behind := by
  induction cs with
  | nil => exact .inl List.not_mem_nil
  | cons c cs ih =>
    rcases ih with hcs | ⟨before, behind, rfl, hbehind⟩
    · by_cases hc : c = '/'
      · exact .inr ⟨[], cs, by rw [hc]; rfl, hcs⟩
      · exact .inl fun hmem ↦ (List.mem_cons.1 hmem).elim (fun h ↦ hc h.symm) hcs
    · exact .inr ⟨c :: before, behind, rfl, hbehind⟩

/-! ### Components -/

theorem chars_of_partOf? {piece : List Char} {part : PathPart} (h : partOf? piece = some part) :
    part.chars = piece := by
  unfold partOf? at h
  split at h
  · exact nomatch h
  · exact nomatch h
  · exact Option.some.inj h ▸ rfl
  · exact Option.some.inj h ▸ rfl

theorem partOf?_eq_none_iff {piece : List Char} :
    partOf? piece = none ↔ piece = [] ∨ piece = ['.'] := by
  unfold partOf?
  split <;> simp_all

theorem isAbsolute_iff {p : Path} : p.isAbsolute = true ↔ p.text.toList.head? = some '/' := by
  rw [isAbsolute]
  rcases p.text.toList with _ | ⟨c, cs⟩
  · simp
  · by_cases hc : c = '/'
    · simp [hc]
    · split <;> simp_all

theorem isAbsolute_congr {p q : Path} (h : p.text.toList.head? = q.text.toList.head?) :
    p.isAbsolute = q.isAbsolute := by
  rw [Bool.eq_iff_iff, isAbsolute_iff, isAbsolute_iff, h]

theorem isAbsolute_of_not_mem {p : Path} (h : '/' ∉ p.text.toList) : p.isAbsolute = false :=
  Bool.eq_false_iff.2 fun habs ↦ h (List.mem_of_mem_head? (isAbsolute_iff.1 habs))

/-- What is behind a separator only adds components. -/
theorem parts_of_append_slash {p q : Path} {cs ds : List Char} (hp : p.text.toList = cs ++ ['/'])
    (hq : q.text.toList = cs ++ '/' :: ds) :
    q.parts = p.parts ++ (pieces ds).filterMap partOf? := by
  have habs : q.isAbsolute = p.isAbsolute := isAbsolute_congr <| by
    rw [hp, hq]
    cases cs <;> rfl
  cases hcs : pieces cs with
  | nil => exact absurd hcs (pieces_ne_nil cs)
  | cons first rest =>
    have hpieces (es : List Char) : pieces (cs ++ '/' :: es) = first :: (rest ++ pieces es) := by
      rw [pieces_append_slash, hcs, List.cons_append]
    simp only [parts, hp, hq, hpieces, habs, List.filterMap_append]
    have hnil : (pieces []).filterMap partOf? = [] := rfl
    rw [hnil, List.append_nil]
    split
    · rfl
    · split
      · rfl
      · exact (List.append_assoc ..).symm

/-- A separator at the end of a path counts for nothing. -/
theorem parts_of_slash {p q : Path} (hp : p.text.toList ≠ [])
    (hq : q.text.toList = p.text.toList ++ ['/']) : q.parts = p.parts := by
  have habs : q.isAbsolute = p.isAbsolute := isAbsolute_congr <| by
    rw [hq]
    cases hcs : p.text.toList with
    | nil => exact absurd hcs hp
    | cons => rfl
  cases hpieces : pieces p.text.toList with
  | nil => exact absurd hpieces (pieces_ne_nil _)
  | cons first rest =>
    simp only [parts, hq, pieces_append_slash, hpieces, habs, List.cons_append,
      List.filterMap_append]
    have hnil : (pieces []).filterMap partOf? = [] := rfl
    rw [hnil, List.append_nil]

theorem parts_of_text_eq_nil {p : Path} (hp : p.text.toList = []) : p.parts = [] := by
  simp [parts, hp, pieces, isAbsolute, partOf?]

/-- A text without separators is one component, if it is any. -/
theorem parts_of_not_mem {p : Path} (h : '/' ∉ p.text.toList) :
    p.parts = if p.text.toList = ['.'] then [.here] else (partOf? p.text.toList).toList := by
  simp only [parts, pieces_of_not_mem h, isAbsolute_of_not_mem h]
  split <;> simp_all

/-- Every text but the empty one has components. -/
theorem parts_eq_nil_iff {p : Path} : p.parts = [] ↔ p.text.toList = [] := by
  refine ⟨fun hp ↦ ?_, parts_of_text_eq_nil⟩
  cases hcs : p.text.toList with
  | nil => rfl
  | cons c cs =>
    exfalso
    by_cases hc : c = '/'
    · have habs : p.isAbsolute = true := isAbsolute_iff.2 (by rw [hcs, hc]; rfl)
      simp [parts, hcs, hc, pieces_slash, habs] at hp
    · cases hpieces : pieces cs with
      | nil => exact pieces_ne_nil cs hpieces
      | cons piece rest =>
        have hpart : partOf? (c :: piece) = none → c :: piece = ['.'] := fun hnone ↦
          (partOf?_eq_none_iff.1 hnone).resolve_left nofun
        simp only [parts, hcs, pieces_cons_of_ne hc hpieces] at hp
        split at hp
        · exact nomatch hp
        · split at hp
          · exact nomatch hp
          · rename_i hhere
            exact hhere (hpart (Option.toList_eq_nil_iff.1 (List.append_eq_nil_iff.1 hp).1))

/-! ### Joining -/

theorem join_of_isAbsolute {p q : Path} (hq : q.isAbsolute = true) : p.join q = q := by
  rw [join, if_pos hq]

theorem join_of_text_eq_nil {p : Path} (hp : p.text.toList = []) (q : Path) : p.join q = q := by
  rw [join, String.toList_eq_nil_iff.1 hp]
  simp

/-- Below a directory with a spelling every piece of a relative path counts as one behind the first
place. -/
theorem parts_join_of_text_ne_nil {p q : Path} (hp : p.text.toList ≠ [])
    (hq : q.isAbsolute = false) :
    (p.join q).parts = p.parts ++ (pieces q.text.toList).filterMap partOf? := by
  have hempty : p.text.isEmpty = false := by simpa [String.isEmpty_iff] using hp
  rw [join, if_neg (by simp [hq]), hempty, Bool.false_or]
  split
  case isTrue h =>
    obtain ⟨cs, hcs⟩ := List.getLast?_eq_some_iff.1 (of_decide_eq_true h)
    have htext : (p.text ++ q.text).toList = cs ++ '/' :: q.text.toList := by
      rw [String.toList_append, hcs, List.append_assoc]
      rfl
    exact parts_of_append_slash hcs htext
  case isFalse h =>
    have hslash := parts_of_slash (q := ⟨p.text ++ "/"⟩) hp String.toList_append
    have htext : (p.text ++ "/" ++ q.text).toList = p.text.toList ++ '/' :: q.text.toList := by
      rw [String.toList_append, String.toList_append, List.append_assoc]
      rfl
    rw [← hslash]
    exact parts_of_append_slash String.toList_append htext

/-- A relative path adds its components to those of the directory. -/
theorem exists_parts_join (p : Path) {q : Path} (hq : q.isAbsolute = false) :
    ∃ added, (p.join q).parts = p.parts ++ added := by
  by_cases hp : p.text.toList = []
  · exact ⟨_, by rw [join_of_text_eq_nil hp, parts_of_text_eq_nil hp, List.nil_append]⟩
  · exact ⟨_, parts_join_of_text_ne_nil hp hq⟩

theorem startsWith_iff {p dir : Path} : p.startsWith dir = true ↔ dir.parts <+: p.parts := by
  rw [startsWith, List.isPrefixOf_iff_prefix]

/-- A relative path stays below the directory that it is joined to. -/
theorem startsWith_join (dir : Path) {q : Path} (hq : q.isAbsolute = false) :
    (dir.join q).startsWith dir = true := by
  obtain ⟨added, h⟩ := dir.exists_parts_join hq
  exact startsWith_iff.2 ⟨added, h.symm⟩

theorem startsWith_trans {p q r : Path} (hp : p.startsWith q = true) (hq : q.startsWith r = true) :
    p.startsWith r = true :=
  startsWith_iff.2 ((startsWith_iff.1 hq).trans (startsWith_iff.1 hp))

/-! ### File names -/

theorem fileName?_eq_some_iff {p : Path} {cs : List Char} :
    p.fileName? = some cs ↔ ∃ ps, p.parts = ps ++ [.name cs] := by
  rw [← List.getLast?_eq_some_iff, fileName?]
  split
  case h_1 cs' hlast => rw [hlast, Option.some.injEq, Option.some.injEq, PathPart.name.injEq]
  case h_2 hlast => exact iff_of_false nofun (hlast cs)

/-- A piece between separators that stands for a name: what a directory can have as an entry. -/
def IsFileName (name : String) : Prop :=
  '/' ∉ name.toList ∧ partOf? name.toList = some (.name name.toList)

instance (name : String) : Decidable (IsFileName name) := inferInstanceAs (Decidable (_ ∧ _))

/-- A name adds itself to the components of the directory. -/
theorem parts_join_name (dir : Path) {name : String} (h : IsFileName name) :
    (dir.join ⟨name⟩).parts = dir.parts ++ [.name name.toList] := by
  obtain ⟨hslash, hname⟩ := h
  by_cases hdir : dir.text.toList = []
  · have hhere : name.toList ≠ ['.'] := fun h ↦ by
      rw [h] at hname
      exact nomatch hname
    rw [join_of_text_eq_nil hdir, parts_of_text_eq_nil hdir, parts_of_not_mem hslash,
      if_neg hhere, hname]
    rfl
  · rw [parts_join_of_text_ne_nil hdir (isAbsolute_of_not_mem hslash), pieces_of_not_mem hslash,
      List.filterMap_cons_some hname]
    rfl

/-- A name is the file name of what it is joined to. -/
theorem fileName?_join (dir : Path) {name : String} (h : IsFileName name) :
    (dir.join ⟨name⟩).fileName? = some name.toList :=
  fileName?_eq_some_iff.2 ⟨dir.parts, dir.parts_join_name h⟩

/-! ### Parents -/

section Parents

open parent?

/-- Separators and dots that count for nothing can be dropped at the end of a spelling. -/
theorem parts_dropIgnored (rev : List Char) :
    (⟨String.ofList (dropIgnored rev).reverse⟩ : Path).parts =
      (⟨String.ofList rev.reverse⟩ : Path).parts := by
  fun_induction dropIgnored rev with
  | case1 => rfl
  | case2 cs hroot ih =>
    have hne : cs.reverse ≠ [] := fun h ↦ hroot (List.reverse_eq_nil_iff.1 h)
    rw [ih]
    exact (parts_of_slash (by simpa using hne) (by simp)).symm
  | case3 cs ih =>
    have hdot : (pieces ['.']).filterMap partOf? = [] := rfl
    have hbefore : (⟨String.ofList ('/' :: cs).reverse⟩ : Path).text.toList =
        cs.reverse ++ ['/'] := by simp
    have hbehind : (⟨String.ofList ('.' :: '/' :: cs).reverse⟩ : Path).text.toList =
        cs.reverse ++ '/' :: ['.'] := by simp
    rw [ih, parts_of_append_slash hbefore hbehind, hdot, List.append_nil]
  | case4 => rfl

/-- What is left by `dropIgnored` has nothing more to drop, unless it is the root. -/
theorem dropIgnored_eq (rev : List Char) :
    dropIgnored rev = ['/'] ∨ (∀ cs, dropIgnored rev ≠ '/' :: cs) ∧
      ∀ cs, dropIgnored rev ≠ '.' :: '/' :: cs := by
  fun_induction dropIgnored rev with
  | case1 => exact .inl rfl
  | case2 cs hroot ih => exact ih
  | case3 cs ih => exact ih
  | case4 cs hroot hslash hdot => exact .inr ⟨hslash, hdot⟩

/-- A spelling without separators ends in its last component because it has no other one. -/
theorem eq_of_parts_of_not_mem {p : Path} {ps : List PathPart} {part : PathPart}
    (hslash : '/' ∉ p.text.toList) (h : p.parts = ps ++ [part]) :
    ps = [] ∧ part.chars = p.text.toList := by
  rw [parts_of_not_mem hslash] at h
  split at h
  case isTrue hhere =>
    have hconcat : [] ++ [.here] = ps ++ [part] := h
    obtain ⟨hps, hpart⟩ := List.append_inj' hconcat rfl
    rw [← List.singleton_inj.1 hpart, hhere]
    exact ⟨hps.symm, rfl⟩
  case isFalse =>
    cases hpart : partOf? p.text.toList with
    | none =>
      rw [hpart] at h
      exact absurd h (by simp)
    | some part' =>
      rw [hpart] at h
      have hconcat : [] ++ [part'] = ps ++ [part] := h
      obtain ⟨hps, heq⟩ := List.append_inj' hconcat rfl
      rw [← List.singleton_inj.1 heq]
      exact ⟨hps.symm, chars_of_partOf? hpart⟩

/-- A spelling with nothing to drop at its end ends in its last component, and what stands before
has the other components. -/
theorem exists_front {rev : List Char} {ps : List PathPart} {part : PathPart}
    (h : (⟨String.ofList (dropIgnored rev).reverse⟩ : Path).parts = ps ++ [part])
    (hroot : part ≠ .root) :
    ∃ front, (dropIgnored rev).reverse = front ++ part.chars ∧
      (⟨String.ofList front⟩ : Path).parts = ps := by
  have hrest := dropIgnored_eq rev
  generalize dropIgnored rev = left at h hrest
  -- The last component is what stands behind the last separator.
  rcases exists_last_slash left.reverse with hslash | ⟨before, behind, hleft, hslash⟩
  · obtain ⟨hps, hchars⟩ := eq_of_parts_of_not_mem (by simpa using hslash) h
    refine ⟨[], ?_, ?_⟩
    · rw [hchars, String.toList_ofList, List.nil_append]
    · rw [hps]
      exact parts_of_text_eq_nil String.toList_ofList
  · have hparts : (⟨String.ofList left.reverse⟩ : Path).parts =
        (⟨String.ofList (before ++ ['/'])⟩ : Path).parts ++ (partOf? behind).toList := by
      have hjoined := parts_of_append_slash (p := ⟨String.ofList (before ++ ['/'])⟩)
        (q := ⟨String.ofList left.reverse⟩) String.toList_ofList
        (String.toList_ofList.trans hleft)
      rw [hjoined, pieces_of_not_mem hslash]
      cases hpart : partOf? behind <;> simp [hpart]
    rw [hparts] at h
    cases hpart : partOf? behind with
    | some last =>
      rw [hpart] at h
      obtain ⟨hps, hlast⟩ := List.append_inj' h rfl
      refine ⟨before ++ ['/'], ?_, hps⟩
      rw [← List.singleton_inj.1 hlast, chars_of_partOf? hpart, hleft]
      simp
    | none =>
      -- There would be something to drop, unless the separator is the root.
      exfalso
      rw [hpart, Option.toList_none, List.append_nil] at h
      have hrev : left = behind.reverse ++ '/' :: before.reverse := by
        simpa using congrArg List.reverse hleft
      rcases partOf?_eq_none_iff.1 hpart with rfl | rfl
      · rcases hrest with hleft | ⟨hslash, -⟩
        · have hbefore : before = [] := by simpa [hleft] using hrev.symm
          rw [hbefore] at h
          have hroot' : [] ++ [PathPart.root] = ps ++ [part] := h
          exact hroot (List.singleton_inj.1 (List.append_inj' hroot' rfl).2).symm
        · exact hslash _ hrev
      · rcases hrest with hleft | ⟨-, hdot⟩
        · simp [hleft] at hrev
        · exact hdot _ hrev

/-- **Parents.** A path that ends in a name has a parent, which has all components but the name. -/
theorem exists_parent?_of_fileName? {p : Path} {cs : List Char} (h : p.fileName? = some cs) :
    ∃ q, p.parent? = some q ∧ p.parts = q.parts ++ [.name cs] := by
  obtain ⟨ps, hps⟩ := fileName?_eq_some_iff.1 h
  -- What counts for nothing is dropped twice: behind the name, and between it and the parent.
  have hparts := parts_dropIgnored p.text.toList.reverse
  rw [List.reverse_reverse, String.ofList_toList] at hparts
  obtain ⟨front, hfront, hrest⟩ := exists_front (hparts.trans hps) nofun
  have hparent : p.parent? = some ⟨String.ofList (dropIgnored front.reverse).reverse⟩ := by
    have hdrop : dropTail cs p.text.toList.reverse = dropIgnored front.reverse := by
      have hrev : dropIgnored p.text.toList.reverse = cs.reverse ++ front.reverse := by
        simpa [PathPart.chars] using congrArg List.reverse hfront
      rw [dropTail, hrev, List.drop_left' List.length_reverse]
    simp [parent?, hps, PathPart.chars, hdrop]
  refine ⟨_, hparent, ?_⟩
  rw [parts_dropIgnored, List.reverse_reverse, hrest, hps]

end Parents

end Path

end MacroStream
