import ClusterAccess.CommandLine.Report
import ClusterAccess.Proofs.Authentication
import ClusterAccess.Proofs.SharedAuthority

namespace ClusterAccess

open Text (Missing)

theorem Settings.credentialWait_ne_zero {s : Settings} (h : s.validate = .ok ()) :
    s.credentialWait ≠ 0 := by
  intro hz
  rw [validate, hz] at h
  split at h <;> cases h

theorem Pod.validate_of_options [Library] {h : Host} {p : Pod} {directory : String} {o : Options}
    (ho : p.options h directory = .ok o) : o.validate = .ok () := by
  obtain ⟨endpoint, -, ho⟩ := Except.bind_eq_ok_iff.1 ho
  obtain ⟨token, -, ho⟩ := Except.bind_eq_ok_iff.1 ho
  change ite _ _ _ = _ at ho
  split at ho
  · cases ho
  · obtain ⟨ca, -, ho⟩ := Except.bind_eq_ok_iff.1 ho
    obtain ⟨hv, ho⟩ := Except.bind_unit_eq_ok_iff.1 ho
    rw [← Except.ok.inj ho]
    exact hv

namespace Options

variable {o : Options}

/-- Valid options that get another namespace are as good as the namespace. -/
theorem validate_setNamespace [Library] (hv : o.validate = .ok ()) (n : String)
    (logHeaders : Bool) {wait : Nat} (hw : wait ≠ 0) :
    { o with namespaceName := n, logHeaders := logHeaders, credentialWait := wait }.validate =
      if Text.trim n = "" then .error (.badOptions "namespace must not be empty") else .ok () := by
  obtain ⟨hendpoint, -, -, hcertificate, hstrategy⟩ := validate_eq_ok_iff.1 hv
  by_cases hn : Text.trim n = ""
  case pos =>
    have hblank := (Text.trim_eq_empty_iff n).1 hn
    rw [if_pos hn, validate, hendpoint, hblank]
    rfl
  case neg =>
    have hblank := (Text.trim_eq_empty_iff n).not.1 hn
    rw [if_neg hn, validate_eq_ok_iff]
    exact ⟨hendpoint, Bool.eq_false_iff.2 hblank, hw, hcertificate, hstrategy⟩

end Options

namespace Resolver

variable {h : Host} {s : Settings} {k : Kubeconfig} {context asked asked' : Option String}
  {o : Options}

theorem validate_of_resolve [Library] (ho : (resolve h s k context asked).2 = .ok o) :
    o.validate = .ok () := by
  have hq : (Query.mk h s k context asked).answer = .ok o := ho
  exact (Query.answer_eq_ok_iff.1 hq).2.2

theorem trimmed?_of_missing (h : Missing asked) : trimmed? asked = none := by
  rw [trimmed?, Text.nonBlank?_eq_none_iff.2 h, Option.map_none]

/-- Of the namespace that is asked for, only the text between its blanks counts. -/
theorem resolve_congr [Library] (h' : trimmed? asked = trimmed? asked') :
    resolve h s k context asked = resolve h s k context asked' := by
  have hoptions : options s asked = options s asked' := by
    funext x c endpoint authority strategy
    rw [options, options, namespaceOf, namespaceOf, h']
  rw [resolve, resolve, resolution, resolution, hoptions]

end Resolver

namespace CommandLine

def Arguments.unnamed (a : Arguments) : Arguments :=
  { a with value := fun v => if v = .namespaceName then Option.none else a.value v }

def Arguments.NamesBlank (a : Arguments) : Prop :=
  ∃ t, a.value .namespaceName = some t ∧ Text.trim t = ""

/-- A command line asks for the account of a pod, with a namespace that is blank. -/
def Arguments.BlanksAccount (a : Arguments) : Prop := a.flag .inCluster = true ∧ a.NamesBlank

def LeadsTo [Library] (args : Arguments) (s : Surroundings) (settings : Settings) (o : Options) :
    Prop :=
  (connectionOptions args s settings).2 = .ok o

variable {args : Arguments} {s : Surroundings} {settings : Settings} {o : Options}

theorem Arguments.NamesBlank.missing (h : args.NamesBlank) :
    Missing (args.value .namespaceName) := by
  obtain ⟨t, ht, hblank⟩ := h
  intro t' ht'
  rw [ht] at ht'
  rw [← Option.some.inj ht']
  exact hblank

section

variable (hflag : args.flag .inCluster = true)

include hflag

theorem leadsTo_iff_account [Library] : LeadsTo args s settings o ↔
    ∃ account, (pod s).options s.host Pod.accountDirectory = .ok account ∧
      o = { account with
        namespaceName := (args.value .namespaceName).getD account.namespaceName
        logHeaders := settings.logHeaders
        credentialWait := settings.credentialWait * 1000 } := by
  rw [LeadsTo, connectionOptions, if_pos hflag, podOptions, Except.map_eq_ok_iff]
  simp only [eq_comm]

theorem validate_of_leadsTo_account [Library] (hv : settings.validate = .ok ())
    (ho : LeadsTo args s settings o) (hb : ¬ args.NamesBlank) : o.validate = .ok () := by
  obtain ⟨account, haccount, rfl⟩ := (leadsTo_iff_account hflag).1 ho
  have hvalid := Pod.validate_of_options haccount
  have hwait : settings.credentialWait * 1000 ≠ 0 :=
    Nat.mul_ne_zero (Settings.credentialWait_ne_zero hv) (by decide)
  rw [Options.validate_setNamespace hvalid _ _ hwait, if_neg]
  cases hn : args.value .namespaceName with
  | some t =>
    intro ht
    exact hb ⟨t, hn, ht⟩
  | none =>
    rw [Option.getD_none, Text.trim_eq_empty_iff, Bool.not_eq_true]
    exact (Options.validate_eq_ok_iff.1 hvalid).2.1

theorem exists_account_of_namesBlank [Library] (hv : settings.validate = .ok ())
    (ho : LeadsTo args s settings o) (hb : args.NamesBlank) :
    o.validate = .error (.badOptions "namespace must not be empty") ∧
      ∃ o', LeadsTo args.unnamed s settings o' ∧ o'.validate = .ok () ∧
        o = { o' with namespaceName := o.namespaceName } ∧ Text.trim o.namespaceName = "" := by
  obtain ⟨account, haccount, rfl⟩ := (leadsTo_iff_account hflag).1 ho
  obtain ⟨t, ht, hblank⟩ := hb
  have hvalid := Pod.validate_of_options haccount
  have hwait : settings.credentialWait * 1000 ≠ 0 :=
    Nat.mul_ne_zero (Settings.credentialWait_ne_zero hv) (by decide)
  have hflag' : args.unnamed.flag .inCluster = true := hflag
  have ho' : LeadsTo args.unnamed s settings { account with
      logHeaders := settings.logHeaders
      credentialWait := settings.credentialWait * 1000 } :=
    (leadsTo_iff_account hflag').2 ⟨account, haccount, rfl⟩
  have hb' : ¬ args.unnamed.NamesBlank := by
    rintro ⟨t', ht', -⟩
    cases ht'
  have hvalid' := validate_of_leadsTo_account hflag' hv ho' hb'
  rw [ht, Option.getD_some]
  refine ⟨?_, _, ho', hvalid', rfl, hblank⟩
  rw [Options.validate_setNamespace hvalid _ _ hwait, if_pos hblank]

end

section

variable (hflag : args.flag .inCluster = false)

include hflag

theorem validate_of_leadsTo_context [Library] (ho : LeadsTo args s settings o) :
    o.validate = .ok () := by
  rw [LeadsTo, connectionOptions, if_neg (Bool.eq_false_iff.1 hflag)] at ho
  cases hp : kubeconfigPath args s with
  | error e =>
    rw [hp] at ho
    cases ho
  | ok path =>
    rw [hp] at ho
    simp only [contextOptions] at ho
    cases hk : Kubeconfig.load s.host path with
    | error e =>
      rw [hk] at ho
      cases ho
    | ok k =>
      rw [hk] at ho
      exact Resolver.validate_of_resolve ho

theorem connectionOptions_unnamed [Library] (hb : args.NamesBlank) :
    connectionOptions args s settings = connectionOptions args.unnamed s settings := by
  have hflag' : args.unnamed.flag .inCluster = false := hflag
  have hpath : kubeconfigPath args.unnamed s = kubeconfigPath args s := rfl
  have hcontext : contextOptions args.unnamed s settings = contextOptions args s settings := by
    funext path
    rw [contextOptions, contextOptions]
    cases Kubeconfig.load s.host path with
    | error e => rfl
    | ok k =>
      apply Resolver.resolve_congr
      rw [Resolver.trimmed?_of_missing hb.missing]
      rfl
  rw [connectionOptions, connectionOptions, if_neg (Bool.eq_false_iff.1 hflag),
    if_neg (Bool.eq_false_iff.1 hflag'), hpath, hcontext]

end

/-- What holds of the options that a command line leads to. -/
structure OptionsChecked [Library] (args : Arguments) (s : Surroundings) (settings : Settings) :
    Prop where
  valid : ∀ o, LeadsTo args s settings o → (o.validate = .ok () ↔ ¬ args.BlanksAccount)
  connects : ∀ o, LeadsTo args s settings o → ∀ session : Simulation.Session,
    (∃ t, session.connect o = .ok t) ↔ ¬ args.BlanksAccount
  refused : args.BlanksAccount → ∀ o, LeadsTo args s settings o →
    o.validate = .error (.badOptions "namespace must not be empty")
  ignored : args.NamesBlank → ¬ args.BlanksAccount →
    connectionOptions args s settings = connectionOptions args.unnamed s settings
  replaced : args.BlanksAccount → ∀ o, LeadsTo args s settings o →
    ∃ o', LeadsTo args.unnamed s settings o' ∧ o'.validate = .ok () ∧
      o = { o' with namespaceName := o.namespaceName } ∧ Text.trim o.namespaceName = ""

theorem validate_iff_of_leadsTo [Library] (hv : settings.validate = .ok ())
    (ho : LeadsTo args s settings o) : o.validate = .ok () ↔ ¬ args.BlanksAccount := by
  cases hflag : args.flag .inCluster with
  | false =>
    have hvalid := validate_of_leadsTo_context hflag ho
    have hb : ¬ args.BlanksAccount := by
      rintro ⟨hflag', -⟩
      rw [hflag] at hflag'
      cases hflag'
    exact iff_of_true hvalid hb
  | true =>
    constructor
    · rintro hvalid ⟨-, hb⟩
      have herror := (exists_account_of_namesBlank hflag hv ho hb).1
      rw [hvalid] at herror
      cases herror
    · intro hb
      apply validate_of_leadsTo_account hflag hv ho
      intro hblank
      exact hb ⟨hflag, hblank⟩

theorem optionsChecked [Library] (args : Arguments) (s : Surroundings)
    (hv : settings.validate = .ok ()) : OptionsChecked args s settings := by
  constructor
  case valid =>
    intro o ho
    exact validate_iff_of_leadsTo hv ho
  case connects =>
    intro o ho session
    rw [← validate_iff_of_leadsTo hv ho]
    constructor
    · rintro ⟨t, ht⟩
      obtain ⟨⟨⟩, h, -⟩ := Except.map_eq_ok_iff.1 ht
      exact h
    · intro h
      exact ⟨_, Except.map_eq_ok_iff.2 ⟨(), h, rfl⟩⟩
  case refused =>
    intro ⟨hflag, hb⟩ o ho
    exact (exists_account_of_namesBlank hflag hv ho hb).1
  case ignored =>
    intro hb hnot
    apply connectionOptions_unnamed
    · rw [← Bool.not_eq_true]
      intro hflag
      exact hnot ⟨hflag, hb⟩
    · exact hb
  case replaced =>
    intro ⟨hflag, hb⟩ o ho
    exact (exists_account_of_namesBlank hflag hv ho hb).2

def accountFiles : FileSystem where
  find? place :=
    let directory := ["var", "run", "secrets", "kubernetes.io", "serviceaccount"]
    if place = directory ++ ["token"] then some (.file [0x74])
    else if place = directory ++ ["ca.crt"] then some (.file Resolver.Query.smallCertificate)
    else if place.isPrefixOf directory then some .directory
    else none

def mounted : Surroundings where
  host := ⟨accountFiles, none, []⟩
  environment := [(Pod.hostVariable, "10.0.0.1"), (Pod.portVariable, "443")]
  now := ⟨0, 0, 0⟩

/-- `--in-cluster --namespace " "` -/
def blankLine : Arguments where
  value := fun v => if v = .namespaceName then some " " else Option.none
  flag := fun f => f = .inCluster

theorem exists_leadsTo_mounted (hflag : args.flag .inCluster = true) :
    ∃ o, LeadsTo args mounted .default o ∧
      o.namespaceName = (args.value .namespaceName).getD "default" := by
  have hnames : ((pod mounted).options mounted.host Pod.accountDirectory).toOption.map
      (·.namespaceName) = some "default" := by
    decide +kernel
  obtain ⟨account, haccount, hname⟩ := Option.map_eq_some_iff.1 hnames
  have haccount := Except.toOption_eq_some_iff.1 haccount
  refine ⟨_, (leadsTo_iff_account hflag).2 ⟨account, haccount, rfl⟩, ?_⟩
  rw [← hname]

theorem optionsChecked_blankLine : Settings.default.validate = .ok () ∧
    OptionsChecked blankLine mounted .default ∧ ∃ o, LeadsTo blankLine mounted .default o := by
  have hv : Settings.default.validate = .ok () := by decide
  have hflag : blankLine.flag .inCluster = true := rfl
  obtain ⟨o, ho, -⟩ := exists_leadsTo_mounted hflag
  exact ⟨hv, optionsChecked blankLine mounted hv, o, ho⟩

/-- Options are resolved although no connection is made of them. -/
theorem not_valid_blankLine : ∃ o o', LeadsTo blankLine mounted .default o ∧
    o.validate = .error (.badOptions "namespace must not be empty") ∧ o.namespaceName = " " ∧
      LeadsTo blankLine.unnamed mounted .default o' ∧ o'.namespaceName = "default" := by
  have hflag : blankLine.flag .inCluster = true := rfl
  have hflag' : blankLine.unnamed.flag .inCluster = true := rfl
  have hb : blankLine.NamesBlank := ⟨" ", rfl, by decide⟩
  obtain ⟨o, ho, hn⟩ := exists_leadsTo_mounted hflag
  obtain ⟨o', ho', hn'⟩ := exists_leadsTo_mounted hflag'
  have hrefused := (exists_account_of_namesBlank hflag (by decide) ho hb).1
  exact ⟨o, o', ho, hrefused, hn, ho', hn'⟩

end CommandLine

end ClusterAccess
