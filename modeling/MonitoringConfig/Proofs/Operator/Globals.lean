import MonitoringConfig.Proofs.Operator.Channel
/-!
# Settings that channels take over

A resource has no global section, so a channel takes over what it would have found there.

* `Channel.inEffect` : what is in effect for a setting of a channel.
* `withGlobals_eq` : after the conversion a channel has in every field what was in effect before.
-/

namespace MonitoringConfig.Conversion

/-- Whether what a channel has for a setting counts as missing. -/
def Fallback.lacks (f : Fallback) (own : Value) : Bool :=
  if f.emptyIsMissing then !own.isTruthy else own.isNull

/-- What a setting comes to, given what a channel has for it. -/
def Fallback.choose (f : Fallback) (defaults own : Value) : Value :=
  if f.lacks own then defaults.get f.globalSetting else own

/-- The first of some fallbacks for a setting. -/
def fallbackFor (fallbacks : List Fallback) (name : String) : Option Fallback :=
  fallbacks.find? (·.setting == name)

/-- What a setting comes to if there are some fallbacks. -/
def chosen (fallbacks : List Fallback) (defaults : Value) (name : String) (own : Value) : Value :=
  match fallbackFor fallbacks name with
  | some f => f.choose defaults own
  | none => own

namespace Channel

/-- Where the settings of channels of a kind are taken from if they are missing. -/
def allFallbacks (c : Channel) : List Fallback :=
  c.fallbacks ++ [clientFallback]

/-- What is in effect for a setting of a channel. -/
def inEffect (c : Channel) (defaults channel : Value) (name : String) : Value :=
  chosen c.allFallbacks defaults name (channel.get name)

end Channel

/-- A channel with what is in effect for its settings. -/
def settled (defaults : Value) (c : Channel) (channel : Value) : Value :=
  .entity c.source (c.source.schema.names.map (c.inEffect defaults channel))

/-! ### Taking over a setting -/

/-- Whether a fallback is a global setting, and one for values of the same type as the setting it
stands in for. -/
def Fallback.suits (f : Fallback) (kind : Kind) : Bool :=
  (Kind.alertingGlobal.schema.type? f.globalSetting).isSome &&
    (kind.schema.type? f.setting).all fun t =>
      Kind.alertingGlobal.schema.type? f.globalSetting == some t

variable {kind : Kind} {defaults v : Value} {f : Fallback}

/-- A channel takes over a setting that it lacks, and nothing else. -/
theorem apply_eq (hv : v.fits (.entity kind) = true)
    (hdefaults : defaults.fits (.entity .alertingGlobal) = true)
    (hnodup : kind.schema.names.Nodup) (hsuits : f.suits kind = true) :
    f.apply defaults v = .ok (.entity kind (kind.schema.names.map fun name =>
      if name = f.setting then f.choose defaults (v.get name) else v.get name)) := by
  simp only [Fallback.suits, Bool.and_eq_true, Option.all_eq_true, beq_iff_eq] at hsuits
  have hglobal := Value.field_of_fits hdefaults f.globalSetting hsuits.1
  have hself := Value.eq_entity_map_get hv hnodup
  -- A setting that is not lacking is kept, and with it the whole channel.
  have hsame : (f.setting ∈ kind.schema.names →
        f.choose defaults (v.get f.setting) = v.get f.setting) →
      Value.entity kind (kind.schema.names.map fun name =>
        if name = f.setting then f.choose defaults (v.get name) else v.get name) = v := fun h => by
    conv_rhs => rw [hself]
    refine congrArg _ (List.map_congr_left fun n hn => ?_)
    split
    · next heq =>
      subst heq
      exact h hn
    · rfl
  by_cases hname : f.setting ∈ kind.schema.names
  · rw [Fallback.apply, Value.field?_eq_ite hv hnodup, if_pos hname]
    show (if f.lacks (v.get f.setting) then _ else _) = _
    cases hlacks : f.lacks (v.get f.setting) with
    | false =>
      rw [hsame fun _ => by rw [Fallback.choose, hlacks]; rfl]
      rfl
    | true =>
      have hchosen : (kind.schema.names.map fun name =>
          if name = f.setting then f.choose defaults (v.get name) else v.get name) =
          kind.schema.names.map fun name =>
            if name = f.setting then defaults.get f.globalSetting else v.get name :=
        List.map_congr_left fun n _ => by
          split
          · next h => rw [h, Fallback.choose, hlacks, if_pos rfl]
          · rfl
      rw [hchosen, if_pos rfl, hglobal, ← Value.setField_eq hv hnodup hname]
      rfl
  · rw [Fallback.apply, Value.field?_eq_ite hv hnodup, if_neg hname,
      hsame fun h => absurd h hname]
    rfl

/-- What a setting comes to is of the type of the setting. -/
theorem choose_fits {t : FieldType} {own : Value}
    (hdefaults : defaults.fits (.entity .alertingGlobal) = true) (hsuits : f.suits kind = true)
    (ht : kind.schema.type? f.setting = some t) (hown : own.fits t = true) :
    (f.choose defaults own).fits t = true := by
  simp only [Fallback.suits, Bool.and_eq_true, Option.all_eq_true, beq_iff_eq] at hsuits
  rw [Fallback.choose]
  split
  · exact (Value.get_fits hdefaults (hsuits.2 t ht)).2
  · exact hown

theorem chosen_cons (f : Fallback) (fallbacks : List Fallback) (defaults : Value) (name : String)
    (own : Value) :
    chosen (f :: fallbacks) defaults name own =
      if name = f.setting then f.choose defaults own else chosen fallbacks defaults name own := by
  rw [chosen, fallbackFor, List.find?_cons]
  by_cases h : name = f.setting
  · simp [h]
  · rw [if_neg h, beq_eq_false_iff_ne.2 (Ne.symm h)]
    rfl

theorem chosen_of_notMem {fallbacks : List Fallback} {name : String}
    (h : ∀ f ∈ fallbacks, f.setting ≠ name) (defaults own : Value) :
    chosen fallbacks defaults name own = own := by
  have hnone : fallbackFor fallbacks name = none :=
    List.find?_eq_none.2 fun f hf => by simpa using h f hf
  rw [chosen, hnone]

/-- A channel takes over one setting after the other. -/
theorem foldlM_apply_eq {fallbacks : List Fallback} (hv : v.fits (.entity kind) = true)
    (hdefaults : defaults.fits (.entity .alertingGlobal) = true)
    (hnodup : kind.schema.names.Nodup) (hsuits : ∀ f ∈ fallbacks, f.suits kind = true)
    (hsettings : (fallbacks.map (·.setting)).Nodup) :
    fallbacks.foldlM (fun v f => f.apply defaults v) v =
        .ok (.entity kind (kind.schema.names.map fun name =>
          chosen fallbacks defaults name (v.get name))) ∧
      (Value.entity kind (kind.schema.names.map fun name =>
        chosen fallbacks defaults name (v.get name))).fits (.entity kind) = true := by
  induction fallbacks generalizing v with
  | nil =>
    have hself := Value.eq_entity_map_get hv hnodup
    exact ⟨congrArg Except.ok hself, hself ▸ hv⟩
  | cons f fallbacks ih =>
    rw [List.map_cons, List.nodup_cons] at hsettings
    have hf := hsuits f List.mem_cons_self
    -- The channel with its first setting taken over is what the others are taken over by.
    let w : Value := .entity kind (kind.schema.names.map fun name =>
      if name = f.setting then f.choose defaults (v.get name) else v.get name)
    have hw : w.fits (.entity kind) = true := Value.fits_map_names fun g hg => by
      have ht := Schema.type?_of_mem hnodup hg
      have hown := (Value.get_fits hv ht).2
      split
      · next h => exact choose_fits hdefaults hf (h ▸ ht) hown
      · exact hown
    have hchosen : (kind.schema.names.map fun name => chosen fallbacks defaults name (w.get name)) =
        kind.schema.names.map fun name =>
          chosen (f :: fallbacks) defaults name (v.get name) :=
      List.map_congr_left fun name hname => by
        have hget : w.get name =
            if name = f.setting then f.choose defaults (v.get name) else v.get name := by
          rw [Value.get, Value.field?_map_names, if_pos hname]
          rfl
        rw [hget, chosen_cons]
        by_cases h : name = f.setting
        · -- The settings are distinct, so none is taken over twice.
          rw [if_pos h, if_pos h, chosen_of_notMem fun g hg heq =>
            hsettings.1 (List.mem_map.2 ⟨g, hg, heq.trans h⟩)]
        · rw [if_neg h, if_neg h]
    obtain ⟨hfold, hfits⟩ := ih hw (fun g hg => hsuits g (List.mem_cons_of_mem _ hg)) hsettings.2
    rw [hchosen] at hfold hfits
    refine ⟨?_, hfits⟩
    rw [List.foldlM_cons, apply_eq hv hdefaults hnodup hf]
    exact hfold

theorem Channel.suits (c : Channel) : ∀ f ∈ c.allFallbacks, f.suits c.source = true := by
  cases c <;> decide

theorem Channel.settings_nodup (c : Channel) : (c.allFallbacks.map (·.setting)).Nodup := by
  cases c <;> decide

/-- **A channel has what is in effect in its fields** once it has taken over what it lacks. -/
theorem withGlobals_eq {c : Channel} (hv : v.fits (.entity c.source) = true)
    (hdefaults : defaults.fits (.entity .alertingGlobal) = true) :
    withGlobals defaults v = .ok (settled defaults c v) ∧
      (settled defaults c v).fits (.entity c.source) = true := by
  have hfold := foldlM_apply_eq hv hdefaults c.declared.names_nodup c.suits c.settings_nodup
  have hsource : Channel.ofKind? c.source = some c := by cases c <;> rfl
  obtain ⟨values, rfl, -⟩ := Value.eq_entity_of_fits hv
  rw [withGlobals, hsource]
  exact hfold

end MonitoringConfig.Conversion
