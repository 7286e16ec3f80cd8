import MonitoringConfig.Text.Blank
/-!
# Texts between blanks

* `Text.dropBlank_append`, `Text.dropBlankEnd_append` : what is dropped is all blanks at an end.
* `Text.trim_eq_iff` : **trimming takes the blanks around a text away, and no more**
  (`Text.Trimmed`).
-/

namespace MonitoringConfig.Text

variable {cs before behind : List Char}

/-- Whether a text has nothing but blanks. -/
def AllBlank (cs : List Char) : Prop :=
  ∀ c ∈ cs, isBlank c = true

theorem allBlank_nil : AllBlank [] := by
  intro c hc
  cases hc

/-- What stands between the blanks around a text. -/
structure Trimmed (text cs : List Char) : Prop where
  between : ∃ before behind, AllBlank before ∧ AllBlank behind ∧ text = before ++ (cs ++ behind)
  head : ∀ c, cs.head? = some c → isBlank c = false
  last : ∀ c, cs.getLast? = some c → isBlank c = false

theorem dropWhile_of_head {p : Char → Bool} (h : ∀ c, cs.head? = some c → p c = false) :
    cs.dropWhile p = cs := by
  cases cs with
  | nil => rfl
  | cons c cs => rw [List.dropWhile_cons, h c rfl, if_neg Bool.false_ne_true]

/-- What is left is free of blanks in front. -/
theorem head_dropBlank (cs : List Char) :
    ∀ c, (dropBlank cs).head? = some c → isBlank c = false := by
  intro c hc
  have hfirst := List.head?_dropWhile_not isBlank cs
  rw [show (cs.dropWhile isBlank).head? = some c from hc] at hfirst
  simpa using hfirst

theorem dropBlank_append (hbefore : AllBlank before)
    (hcs : ∀ c, cs.head? = some c → isBlank c = false) : dropBlank (before ++ cs) = cs := by
  rw [dropBlank, List.dropWhile_append_of_pos hbefore, dropWhile_of_head hcs]

theorem dropBlankEnd_append (hbehind : AllBlank behind)
    (hcs : ∀ c, cs.getLast? = some c → isBlank c = false) : dropBlankEnd (cs ++ behind) = cs := by
  have hreverse : ∀ c, cs.reverse.head? = some c → isBlank c = false := by
    rwa [List.head?_reverse]
  have hblank : ∀ c ∈ behind.reverse, isBlank c = true := fun c hc =>
    hbehind c (List.mem_reverse.1 hc)
  rw [dropBlankEnd, List.reverse_append, List.dropWhile_append_of_pos hblank,
    dropWhile_of_head hreverse, List.reverse_reverse]

/-- What is dropped in front is blank. -/
theorem dropBlank_split (cs : List Char) :
    ∃ before, AllBlank before ∧ cs = before ++ dropBlank cs :=
  ⟨cs.takeWhile isBlank, List.all_eq_true.1 List.all_takeWhile,
    List.takeWhile_append_dropWhile.symm⟩

theorem dropBlank_eq_nil_iff : dropBlank cs = [] ↔ AllBlank cs := by
  constructor
  · intro h
    obtain ⟨before, hbefore, hsplit⟩ := dropBlank_split cs
    rw [hsplit, h, List.append_nil]
    exact hbefore
  · intro h
    rw [← List.append_nil cs]
    exact dropBlank_append h fun c hc => nomatch hc

/-- What is dropped behind is blank, and what is left does not end in a blank. -/
theorem dropBlankEnd_split (cs : List Char) : (∃ behind, AllBlank behind ∧
      cs = dropBlankEnd cs ++ behind) ∧
    ∀ c, (dropBlankEnd cs).getLast? = some c → isBlank c = false := by
  obtain ⟨before, hbefore, hsplit⟩ := dropBlank_split cs.reverse
  refine ⟨⟨before.reverse, fun c hc => hbefore c (List.mem_reverse.1 hc), ?_⟩, ?_⟩
  · have hend := congrArg List.reverse hsplit
    rwa [List.reverse_reverse, List.reverse_append] at hend
  · rw [dropBlankEnd, List.getLast?_reverse]
    exact head_dropBlank cs.reverse

/-- **What stands between blanks**, and has none at its own ends. -/
theorem trim_between (hbefore : AllBlank before) (hbehind : AllBlank behind)
    (hhead : ∀ c, cs.head? = some c → isBlank c = false)
    (hlast : ∀ c, cs.getLast? = some c → isBlank c = false) :
    trim (before ++ (cs ++ behind)) = cs := by
  rw [trim]
  -- with nothing in between, the blanks behind go with those in front
  cases cs with
  | nil =>
    have hblank : AllBlank (before ++ behind) := fun c hc =>
      (List.mem_append.1 hc).elim (hbefore c) (hbehind c)
    have hall : dropBlank (before ++ behind) = [] := by
      rw [← List.append_nil (before ++ behind)]
      exact dropBlank_append hblank hhead
    rw [List.nil_append, hall]
    rfl
  | cons c cs =>
    have hfirst : ∀ d, (c :: cs ++ behind).head? = some d → isBlank d = false := hhead
    rw [dropBlank_append hbefore hfirst, dropBlankEnd_append hbehind hlast]

/-- What has no blanks at its ends stays as it is. -/
theorem Trimmed.self (hhead : ∀ c, cs.head? = some c → isBlank c = false)
    (hlast : ∀ c, cs.getLast? = some c → isBlank c = false) : Trimmed cs cs where
  between := ⟨[], [], allBlank_nil, allBlank_nil, (List.append_nil cs).symm⟩
  head := hhead
  last := hlast

theorem trimmed_trim (cs : List Char) : Trimmed cs (trim cs) := by
  obtain ⟨before, hbefore, hfront⟩ := dropBlank_split cs
  obtain ⟨⟨behind, hbehind, hend⟩, hlast⟩ := dropBlankEnd_split (dropBlank cs)
  refine ⟨⟨before, behind, hbefore, hbehind, ?_⟩, ?_, hlast⟩
  · rw [trim, ← hend, ← hfront]
  · intro c hc
    refine head_dropBlank cs c ?_
    rw [hend, List.head?_append]
    rw [trim] at hc
    rw [hc]
    rfl

/-- **Trimming takes the blanks around a text away, and no more.** -/
theorem trim_eq_iff {text : List Char} : trim text = cs ↔ Trimmed text cs := by
  constructor
  · rintro rfl
    exact trimmed_trim text
  · rintro ⟨⟨before, behind, hbefore, hbehind, rfl⟩, hhead, hlast⟩
    exact trim_between hbefore hbehind hhead hlast

end MonitoringConfig.Text
