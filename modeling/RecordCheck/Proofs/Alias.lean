import Mathlib.Logic.Relation
import RecordCheck.Proofs.Asking
import RecordCheck.Proofs.Registry
import RecordCheck.Proofs.Rereading

/-!
# Aliases and their rules

The name of an alias may be written wherever its rules may be written. A set within a set reports
what its rules would report in its place, so that both descriptions come down to rules that report
the same about every value of every record, or are rejected with the same error.

## Main definitions

* `RuleSet.Same`, `Validator.Same`: the same reports about every value.
* `Registry.Replaces`: two descriptions that differ in one place, where one of them has a name and
  the other the rules that it stands for.

## Main statements

* `firstReport_all`: a set within a set reports as its rules do.
* `Registry.alias_transparent`: descriptions that differ by an alias agree.
-/
set_option autoImplicit false

namespace RecordCheck

open Act

/-! ## Rules that report the same -/

/-- Lists of rules that report the same about every value of every record. -/
def SameReports (rs ss : List Rule) : Prop :=
  ∀ v record, firstReport rs v record = firstReport ss v record

/-- Sets that report the same about every value of every record. -/
def RuleSet.Same (s t : RuleSet) : Prop := ∀ v record, s.apply v record = t.apply v record

/-- Validators that report the same about every record. -/
def Validator.Same (v w : Validator) : Prop := ∀ record, v.check record = w.check record

/-- Rules that report the same and are asked about the same values. -/
def Rule.Same (r s : Rule) : Prop :=
  r.seesAbsent = s.seesAbsent ∧ ∀ v record, r.apply v record = s.apply v record

theorem SameReports.append {rs rs' ss ss' : List Rule} (first : SameReports rs rs')
    (second : SameReports ss ss') : SameReports (rs ++ ss) (rs' ++ ss') := by
  intro v record
  rw [firstReport_append, firstReport_append, first v record]
  refine bind_congr fun report => ?_
  cases report with
  | none => exact second v record
  | some report => rfl

theorem SameReports.single {r s : Rule} (h : Rule.Same r s) : SameReports [r] [s] := by
  intro v record
  rw [firstReport, firstReport, h.1, h.2 v record]
  rfl

/-- A set within a set is asked about every value and reports as its rules do. -/
theorem firstReport_all (serial : Nat) (s : RuleSet) (v record : Value) :
    firstReport [.all serial s] v record = s.apply v record :=
  firstReport_single (by simp [Rule.seesAbsent]) record

/-! ## Rules around rules that report the same -/

theorem reports_congr {es fs : List (Value × RuleSet)}
    (h : List.Forall₂ (fun e f => e.1 = f.1 ∧ e.2.Same f.2) es fs) (record : Value) :
    reports es record = reports fs record := by
  induction h with
  | nil => rfl
  | @cons e f es fs first _ ih =>
    obtain ⟨field, s⟩ := e
    obtain ⟨_, t⟩ := f
    obtain ⟨rfl, same⟩ := first
    simp only [reports, same _ _, ih]

theorem Validator.Same.fields {es fs : List (Value × RuleSet)}
    (h : List.Forall₂ (fun e f => e.1 = f.1 ∧ e.2.Same f.2) es fs) (serial : Nat) :
    Validator.Same (.fields serial es) (.fields serial fs) := by
  intro record
  rw [check, check, reports_congr h]

theorem checkCase_congr {cs ds : List (Value × Validator)}
    (h : List.Forall₂ (fun c d => c.1 = d.1 ∧ c.2.Same d.2) cs ds) (v record : Value)
    (missing : Error) : checkCase cs v record missing = checkCase ds v record missing := by
  induction h with
  | nil => rfl
  | @cons c d cs ds first _ ih =>
    obtain ⟨key, validator⟩ := c
    obtain ⟨_, other⟩ := d
    obtain ⟨rfl, same⟩ := first
    simp only [checkCase, same _, ih]

theorem Validator.Same.switch {cs ds : List (Value × Validator)}
    (h : List.Forall₂ (fun c d => c.1 = d.1 ∧ c.2.Same d.2) cs ds) (serial : Nat) (field : Value) :
    Validator.Same (.switch serial field cs) (.switch serial field ds) := by
  intro record
  simp only [check, checkCase_congr h]

theorem Rule.Same.object {v w : Validator} (h : v.Same w) (field entryField : Value) :
    Rule.Same (.object field entryField v) (.object field entryField w) := by
  refine ⟨rfl, fun x record => ?_⟩
  rw [apply, apply, h x]

theorem Rule.Same.objects {v w : Validator} (h : v.Same w) (field entryField : Value) :
    Rule.Same (.objects field entryField v) (.objects field entryField w) := by
  refine ⟨rfl, fun x record => ?_⟩
  have each : v.check = w.check := funext h
  rw [apply, apply, each]

theorem Rule.Same.listOf {s t : RuleSet} (h : s.Same t) (field : Value) (serial : Nat)
    (entryField : String) :
    Rule.Same (.listOf field serial entryField s) (.listOf field serial entryField t) := by
  refine ⟨rfl, fun x record => ?_⟩
  have each : s.apply = t.apply := funext fun v => funext fun record => h v record
  rw [apply, apply, each]

/-! ## Descriptions that differ in one place -/

mutual

/-- Two descriptions that are the same but for one place, where the first has a name and the second
the rules that it stands for. -/
inductive Registry.Replaces (g : Registry) (name : String) (rules : Value) : Value → Value → Prop
  | here : Replaces g name rules (.str name) rules
  | element {container : Container} {d d' : Value} {before behind : List Value} :
    container = .list ∨ container = .tuple → Replaces g name rules d d' →
      Replaces g name rules (.items container (before ++ d :: behind))
        (.items container (before ++ d' :: behind))
  /-- A mapping without names is a list of its values. -/
  | position {key d d' : Value} {before behind : List (Value × Value)} :
    (∀ entry ∈ before ++ (key, d) :: behind, entry.1.isStr = false) →
      Replaces g name rules d d' →
      Replaces g name rules (.dict (before ++ (key, d) :: behind))
        (.dict (before ++ (key, d') :: behind))
  | argument {caller : String} {a a' : Value} {before behind : List (Value × Value)} :
    ReplacesArguments g name rules caller (Call.arguments ⟨caller, a⟩)
        (Call.arguments ⟨caller, a'⟩) →
      Replaces g name rules (.dict (before ++ (.str caller, a) :: behind))
        (.dict (before ++ (.str caller, a') :: behind))

/-- Arguments of a rule that differ inside one of the descriptions that the rule takes. -/
inductive Registry.ReplacesArguments (g : Registry) (name : String) (rules : Value) :
    String → List Value → List Value → Prop
  | listOf {caller : String} {d d' : Value} : g.find? caller = some (.builtin .listOf) →
      Replaces g name rules d d' → ReplacesArguments g name rules caller [d] [d']
  | nestedObject {caller : String} {r r' : Value} :
    g.find? caller = some (.builtin .nestedObject) → ReplacesField g name rules r r' →
      ReplacesArguments g name rules caller [r] [r']
  | listOfObjects {caller : String} {r r' : Value} :
    g.find? caller = some (.builtin .listOfObjects) → ReplacesField g name rules r r' →
      ReplacesArguments g name rules caller [r] [r']
  | listOfDifferentObjects {caller : String} {field key r r' : Value}
      {before behind : List (Value × Value)} :
    g.find? caller = some (.builtin .listOfDifferentObjects) → ReplacesField g name rules r r' →
      ReplacesArguments g name rules caller [field, .dict (before ++ (key, r) :: behind)]
        [field, .dict (before ++ (key, r') :: behind)]

/-- Rulesets that differ inside the description for one field. -/
inductive Registry.ReplacesField (g : Registry) (name : String) (rules : Value) :
    Value → Value → Prop
  | field {key d d' : Value} {before behind : List (Value × Value)} :
    Replaces g name rules d d' →
      ReplacesField g name rules (.dict (before ++ (key, d) :: behind))
        (.dict (before ++ (key, d') :: behind))

end

namespace Registry

variable {g : Registry} {name : String} {rules : Value}

/-- The rules of the calls of a description. -/
def rulesOf (g : Registry) (description : Value) : Act (List Rule) :=
  (Description.calls description).mapM (callWithin g [] (g.deeper []))

theorem parse_eq_rulesOf (description : Value) :
    g.parse description = (RuleSet.mk · .null) <$> g.rulesOf description := by
  rw [parse, parseWithin_eq]
  simp [rulesOf]

/-- Descriptions that come down to rules with the same reports come down to such sets. -/
theorem parse_agree {d d' : Value}
    (h : Coupling.agreement.Holds SameReports (g.rulesOf d) (g.rulesOf d')) :
    Coupling.agreement.Holds RuleSet.Same (parseWithin g [] (g.deeper []) d)
      (parseWithin g [] (g.deeper []) d') := by
  have both (d : Value) : parseWithin g [] (g.deeper []) d = g.parse d := rfl
  rw [both, both, parse_eq_rulesOf, parse_eq_rulesOf]
  refine h.map fun rs ss same v record => ?_
  rw [RuleSet.apply_null, RuleSet.apply_null, same v record]

/-- Calls in the middle of others may be exchanged for calls that agree with them. -/
theorem agree_middle {xs ys : List (Except Error Call)} (before behind : List (Except Error Call))
    (h : Coupling.agreement.Holds SameReports (xs.mapM (callWithin g [] (g.deeper [])))
      (ys.mapM (callWithin g [] (g.deeper [])))) :
    Coupling.agreement.Holds SameReports
      ((before ++ (xs ++ behind)).mapM (callWithin g [] (g.deeper [])))
      ((before ++ (ys ++ behind)).mapM (callWithin g [] (g.deeper []))) := by
  simp only [List.mapM_append]
  refine (Coupling.Holds.refl (R := (· = ·)) (fun _ => rfl) _).bind ?_
  rintro first _ rfl
  refine (h.bind (T := SameReports) fun mid mid' same => ?_).bind fun rest rest' same => ?_
  · refine (Coupling.Holds.refl (R := (· = ·)) (fun _ => rfl) _).bind ?_
    rintro last _ rfl
    exact .pure (same.append fun _ _ => rfl)
  · exact .pure (SameReports.append (fun _ _ => rfl) same)

theorem agree_single {c c' : Call}
    (h : Coupling.agreement.Holds Rule.Same (ruleWithin g [] (g.deeper []) c)
      (ruleWithin g [] (g.deeper []) c')) :
    Coupling.agreement.Holds SameReports ([.ok c].mapM (callWithin g [] (g.deeper [])))
      ([.ok c'].mapM (callWithin g [] (g.deeper []))) := by
  simp only [List.mapM_cons, List.mapM_nil]
  refine Coupling.Holds.bind (R := Rule.Same) h fun r s same => ?_
  exact .pure (SameReports.single same)

/-- Entries in the middle of a mapping may be exchanged for entries that agree with them. -/
theorem agree_entries {α : Type} {f : Value × Value → Act (Value × α)} {R : α → α → Prop}
    (reflexive : ∀ x, R x x) {key d d' : Value} (before behind : List (Value × Value))
    (h : Coupling.agreement.Holds (fun x y => x.1 = y.1 ∧ R x.2 y.2) (f (key, d)) (f (key, d'))) :
    Coupling.agreement.Holds (List.Forall₂ fun x y => x.1 = y.1 ∧ R x.2 y.2)
      ((before ++ (key, d) :: behind).mapM f) ((before ++ (key, d') :: behind).mapM f) := by
  have same (xs : List (Value × α)) : List.Forall₂ (fun x y => x.1 = y.1 ∧ R x.2 y.2) xs xs :=
    List.forall₂_same.2 fun x _ => ⟨rfl, reflexive x.2⟩
  simp only [List.mapM_append, List.mapM_cons]
  refine (Coupling.Holds.refl (R := (· = ·)) (fun _ => rfl) _).bind ?_
  rintro first _ rfl
  refine Coupling.Holds.bind (R := List.Forall₂ fun x y => x.1 = y.1 ∧ R x.2 y.2)
    (h.bind fun x y pair => ?_) fun rest rest' pairs =>
      .pure (List.rel_append (same first) pairs)
  refine (Coupling.Holds.refl (R := (· = ·)) (fun _ => rfl) _).bind ?_
  rintro last _ rfl
  exact .pure (.cons pair (same last))

theorem ReplacesField.isMapping {r r' : Value} (h : g.ReplacesField name rules r r') :
    r.isMapping ∧ r'.isMapping := by
  cases h
  exact ⟨rfl, rfl⟩

/-- The name and the rules agree where they stand alone. -/
abbrev StandsFor (g : Registry) (name : String) (rules : Value) : Prop :=
  Coupling.agreement.Holds SameReports (g.rulesOf (.str name)) (g.rulesOf rules)

mutual

/-- What agrees alone agrees inside a description. -/
theorem Replaces.agree (here : g.StandsFor name rules) : {d d' : Value} →
    g.Replaces name rules d d' →
    Coupling.agreement.Holds SameReports (g.rulesOf d) (g.rulesOf d')
  | _, _, .here => here
  | _, _, @Replaces.element _ _ _ container _ _ before behind sequence inner => by
    have calls (d : Value) : Description.calls (.items container (before ++ d :: behind)) =
        Description.listCalls before ++ (Description.calls d ++ Description.listCalls behind) := by
      rcases sequence with rfl | rfl <;>
        rw [Description.calls, Description.listCalls_append, Description.listCalls]
    rw [rulesOf, rulesOf, calls, calls]
    exact agree_middle _ _ (Replaces.agree here inner)
  | _, _, @Replaces.position _ _ _ key d d' before behind noName inner => by
    have calls (d : Value) : Description.calls (.dict (before ++ (key, d) :: behind)) =
        Description.valueCalls before ++
          (Description.calls d ++ Description.valueCalls behind) := by
      have positional : (Value.dict (before ++ (key, d) :: behind)).isAssociative = false := by
        simp only [List.mem_append, List.mem_cons] at noName
        simp only [Value.isAssociative, List.any_append, List.any_cons, Bool.or_eq_false_iff,
          List.any_eq_false, Bool.not_eq_true]
        exact ⟨fun e he => noName e (.inl he), noName (key, _) (.inr (.inl rfl)),
          fun e he => noName e (.inr (.inr he))⟩
      rw [Description.calls, if_neg (by simp [positional]), Description.valueCalls_append,
        Description.valueCalls]
    rw [rulesOf, rulesOf, calls, calls]
    exact agree_middle _ _ (Replaces.agree here inner)
  | _, _, @Replaces.argument _ _ _ caller _ _ before behind inner => by
    have calls (a : Value) : Description.calls (.dict (before ++ (.str caller, a) :: behind)) =
        before.map Description.entryCall ++
          ([.ok ⟨caller, a⟩] ++ behind.map Description.entryCall) := by
      rw [Description.calls, if_pos (by simp [Value.isAssociative, Value.isStr])]
      simp [Description.entryCall]
    rw [rulesOf, rulesOf, calls, calls]
    exact agree_middle _ _ (agree_single (ReplacesArguments.agree here inner rfl rfl))

theorem ReplacesArguments.agree (here : g.StandsFor name rules) : {caller : String} →
    {args args' : List Value} → g.ReplacesArguments name rules caller args args' →
    {a a' : Value} → Call.arguments ⟨caller, a⟩ = args → Call.arguments ⟨caller, a'⟩ = args' →
    Coupling.agreement.Holds Rule.Same (ruleWithin g [] (g.deeper []) ⟨caller, a⟩)
      (ruleWithin g [] (g.deeper []) ⟨caller, a'⟩)
  | _, _, _, .listOf found inner, _, _, given, given' => by
    rw [ruleWithin_draft found (by rw [given]; rfl) (by simp [given]),
      ruleWithin_draft found (by rw [given']; rfl) (by simp [given']), finishWithin, finishWithin]
    exact (parse_agree (Replaces.agree here inner)).bind fun s t same => .pure (.listOf same _ _ _)
  | _, _, _, .nestedObject found inner, _, _, given, given' => by
    have mapping := inner.isMapping
    rw [ruleWithin_draft found (by rw [given, Builtin.make_nestedObject mapping.1])
        (by simp [given]),
      ruleWithin_draft found (by rw [given', Builtin.make_nestedObject mapping.2])
        (by simp [given']), finishWithin, finishWithin]
    exact (ReplacesField.agree here inner).bind fun es fs same =>
      .pure (.object (.fields same 0) _ _)
  | _, _, _, .listOfObjects found inner, _, _, given, given' => by
    have mapping := inner.isMapping
    rw [ruleWithin_draft found (by rw [given, Builtin.make_listOfObjects mapping.1])
        (by simp [given]),
      ruleWithin_draft found (by rw [given', Builtin.make_listOfObjects mapping.2])
        (by simp [given']), finishWithin, finishWithin]
    exact (ReplacesField.agree here inner).bind fun es fs same =>
      .pure (.objects (.fields same 0) _ _)
  | _, _, _, .listOfDifferentObjects found inner, _, _, given, given' => by
    rw [ruleWithin_draft found (by rw [given, Builtin.make_listOfDifferentObjects])
        (by simp [given]),
      ruleWithin_draft found (by rw [given', Builtin.make_listOfDifferentObjects])
        (by simp [given']), finishWithin_variants rfl rfl, finishWithin_variants rfl rfl]
    refine Coupling.Holds.bind (agree_entries (R := Validator.Same) (fun _ _ => rfl) _ _ ?_)
      fun cs ds same => .pure (.objects (.switch same 0 _) _ _)
    exact (ReplacesField.agree here inner).bind fun es fs same => .pure ⟨rfl, .fields same 0⟩

theorem ReplacesField.agree (here : g.StandsFor name rules) : {r r' : Value} →
    g.ReplacesField name rules r r' →
    Coupling.agreement.Holds (List.Forall₂ fun e f => e.1 = f.1 ∧ e.2.Same f.2)
      (buildWithin g [] (g.deeper []) r) (buildWithin g [] (g.deeper []) r')
  | _, _, .field inner => by
    rw [buildWithin_dict, buildWithin_dict]
    exact agree_entries (fun _ _ _ => rfl) _ _
      ((parse_agree (Replaces.agree here inner)).bind fun s t same => .pure ⟨rfl, same⟩)

end

/-- The name of an alias is one set of rules, read while the name is pending. -/
theorem rulesOf_name {override : Value}
    (found : g.find? name = some (.standsFor rules override)) :
    g.rulesOf (.str name) = (fun s => [Rule.all 0 (s.withOverride override)]) <$>
      parseWithin g [name] (g.deeper [name]) rules := by
  rw [rulesOf, Description.calls_name]
  simp [callWithin_alias found List.not_mem_nil]

/-- A name and its rules come down to the same set, but for what is reported. -/
theorem alias_alone {override : Value} (found : g.find? name = some (.standsFor rules override))
    (steady : g.IsSteady ∨ ∀ l, outcome (g.parse (.str name)) l ≠ .error .endless) :
    Coupling.agreement.Holds
      (fun rs ss => ∃ s : RuleSet, rs = [.all 0 (s.withOverride override)] ∧ s.rules = ss)
      (g.rulesOf (.str name)) (g.rulesOf rules) := by
  have ends : g.IsSteady ∨
      ∀ l, outcome (parseWithin g [name] (g.deeper [name]) rules) l ≠ .error .endless := by
    refine steady.imp_right fun never l endless => never l ?_
    rw [parse_eq_rulesOf, rulesOf_name found, outcome_map, outcome_map, endless]
    rfl
  have rulesOf_eq : g.rulesOf rules = RuleSet.rules <$> g.parse rules := by
    rw [parse_eq_rulesOf, Functor.map_map]
    simp [RuleSet.rules]
  rw [rulesOf_name found, rulesOf_eq]
  exact (parse_pending found ends).map fun s t same => ⟨s, rfl, same ▸ rfl⟩

/-- Where the rules of an alias may be written its name may be written, as often as one likes, if
the alias has no code of its own; otherwise the name alone reports this code where the rules report
anything. Either both descriptions are read, or they are rejected with the same error. Only where
the alias leads back to itself must ways of making rules that a program has added last. -/
theorem alias_transparent {override : Value}
    (found : g.find? name = some (.standsFor rules override))
    (steady : g.IsSteady ∨ ∀ l, outcome (g.parse (.str name)) l ≠ .error .endless) :
    (override = .null → ∀ d d', Relation.ReflTransGen (g.Replaces name rules) d d' →
      Coupling.agreement.Holds RuleSet.Same (g.parse d) (g.parse d')) ∧
    (override = .null → ∀ r r', Relation.ReflTransGen (g.ReplacesField name rules) r r' →
      Coupling.agreement.Holds Validator.Same (g.build [] r) (g.build [] r')) ∧
    (override ≠ .null → Coupling.agreement.Holds
      (fun s t => ∀ v record,
        s.apply v record = (Option.map fun _ => Report.ofCode override) <$> t.apply v record)
      (g.parse (.str name)) (g.parse rules)) := by
  have alone := alias_alone found steady
  refine ⟨?_, ?_, ?_⟩
  · rintro rfl d d' places
    have here : g.StandsFor name rules := alone.mono fun rs ss ⟨s, hrs, hss⟩ v record => by
      rw [hrs, firstReport_all, RuleSet.withOverride, RuleSet.apply_null, hss]
    induction places with
    | refl => exact .refl (fun _ _ _ => rfl) _
    | tail _ place ih =>
      refine ih.trans (fun _ _ _ first second v record =>
        (first v record).trans (second v record)) ?_
      exact parse_agree (place.agree here)
  · rintro rfl r r' places
    have here : g.StandsFor name rules := alone.mono fun rs ss ⟨s, hrs, hss⟩ v record => by
      rw [hrs, firstReport_all, RuleSet.withOverride, RuleSet.apply_null, hss]
    induction places with
    | refl => exact .refl (fun _ _ => rfl) _
    | tail _ place ih =>
      refine ih.trans (fun _ _ _ first second record => (first record).trans (second record)) ?_
      refine (place.agree here).bind fun es fs same => .pure (.fields ?_ 0)
      exact Keyed.forall₂_putAll .nil same
  · intro given
    rw [parse_eq_rulesOf, parse_eq_rulesOf]
    refine alone.map fun rs ss ⟨s, hrs, hss⟩ v record => ?_
    rw [RuleSet.apply_null, RuleSet.apply_null, hrs, firstReport_all, ← hss]
    have replaced (found : Option Report) :
        found.map (overridden override) = found.map fun _ => Report.ofCode override := by
      cases found with
      | none => rfl
      | some report => cases override <;> first | rfl | exact absurd rfl given
    simp [RuleSet.withOverride, RuleSet.apply, replaced]

/-- Nothing but built-in rules and aliases: all of them last. -/
theorem IsStandard.isSteady {D : Value → Prop} (standard : g.IsStandard D) : g.IsSteady :=
  fun _ _ found => (standard.find? found).elim

/-- An alias inside the description of a list. -/
theorem alias_transparent_listOf :
    let rules := Value.list [.str "required", .str "integer"]
    let g := (({} : Registry).registerAlias (.str "whole") rules .null).registry
    g.find? "whole" = some (.standsFor rules .null) ∧ g.IsSteady ∧
      Coupling.agreement.Holds RuleSet.Same
        (g.parse (.dict [(.str "list_of", .list [.str "whole"])]))
        (g.parse (.dict [(.str "list_of", .list [rules])])) := by
  intro rules g
  have found : g.find? "whole" = some (.standsFor rules .null) := find?_registerAlias rfl
  have standard : g.IsStandard fun _ => True :=
    (IsStandard.builtins "entry" true).registerAlias (.str "whole") trivial (.inl rfl)
  have steady : g.IsSteady := standard.isSteady
  refine ⟨found, steady, (alias_transparent found (.inl steady)).1 rfl _ _ (.single ?_)⟩
  exact @Replaces.argument g "whole" rules "list_of" _ _ [] [] (.listOf rfl .here)

end Registry

end RecordCheck
