import ClusterAccess.CommandLine.Report
import ClusterAccess.Proofs.Secrecy.Resolution
import ClusterAccess.Proofs.Secrecy.Session

namespace ClusterAccess.CommandLine

open Simulation

theorem describeCredential_of_veil {c c' : Credential} (h : c'.veil = c.veil) :
    describeCredential c' = describeCredential c := by
  have hveil (c : Credential) : describeCredential c.veil = describeCredential c := by
    obtain ⟨secret, expiresAt⟩ := c
    cases secret <;> rfl
  rw [← hveil, h, hveil]

/-- Reports with the same output, and the same errors if these are not in a file as well. -/
structure Report.Same (bare : Prop) (r r' : Report) : Prop where
  output : r'.output = r.output
  errors : bare → r'.errors = r.errors

structure SameEnd {α : Type} (bare : Prop) (y y' : Except Error α × Report) : Prop where
  result : y'.1 = y.1
  report : y.2.Same bare y'.2

variable {bare : Prop} {r r' : Report}

namespace Job

variable {α β : Type}

/-- Work that does nothing but say some lines, whatever has been done before. -/
def Speaks (x : Job α) : Prop :=
  ∃ (result : Except Error α) (lines : List String),
    ∀ r : Report, x.run.run r = (result, { r with output := r.output ++ lines })

theorem speaks_say (line : String) : Speaks (say line) := ⟨.ok (), [line], fun _ => rfl⟩

theorem run_bind (x : Job α) (f : α → Job β) (r : Report) :
    (x >>= f).run.run r =
      match x.run.run r with
      | (.ok a, r) => (f a).run.run r
      | (.error e, r) => (.error e, r) := by
  rw [ExceptT.run_bind, StateT.run_bind]
  generalize x.run.run r = y
  obtain ⟨_ | _, _⟩ := y <;> rfl

theorem run_ofExcept (x : Except Error α) (r : Report) : (ofExcept x).run.run r = (x, r) := by
  cases x <;> rfl

theorem run_pure (a : α) (r : Report) : (pure a : Job α).run.run r = (.ok a, r) := rfl

theorem run_get_bind (f : Report → Job β) (r : Report) :
    (get >>= f).run.run r = (f r).run.run r := rfl

theorem run_ofExcept_bind (x : Except Error α) (f : α → Job β) (r : Report) :
    (ofExcept x >>= f).run.run r =
      match x with
      | .ok a => (f a).run.run r
      | .error e => (.error e, r) := by
  cases x <;> rfl

theorem speaks_pure (a : α) : Speaks (pure a : Job α) :=
  ⟨.ok a, [], fun r => by rw [List.append_nil, run_pure]⟩

theorem speaks_ofExcept (x : Except Error α) : Speaks (ofExcept x) :=
  ⟨x, [], fun r => by rw [List.append_nil, run_ofExcept]⟩

theorem Speaks.bind {x : Job α} {f : α → Job β} (hx : Speaks x) (hf : ∀ a, Speaks (f a)) :
    Speaks (x >>= f) := by
  obtain ⟨result, lines, hx⟩ := hx
  cases result with
  | error e => exact ⟨.error e, lines, fun r => by rw [run_bind, hx]⟩
  | ok a =>
    obtain ⟨result, lines', hf⟩ := hf a
    refine ⟨result, lines ++ lines', fun r => ?_⟩
    rw [run_bind, hx]
    dsimp only
    rw [hf, List.append_assoc]

theorem Speaks.same {x : Job α} (hx : Speaks x) (hr : r.Same bare r') :
    SameEnd bare (x.run.run r) (x.run.run r') := by
  obtain ⟨result, lines, hx⟩ := hx
  rw [hx, hx]
  exact ⟨rfl, congrArg (· ++ lines) hr.output, hr.errors⟩

theorem speaks_forM (lines : List String) : Speaks (lines.forM say) := by
  induction lines with
  | nil => exact speaks_pure ()
  | cons line lines ih => exact (speaks_say line).bind fun _ => ih

end Job

theorem speaks_describeCertificate (label : String) (c : Certificate) :
    (describeCertificate label c).Speaks :=
  (Job.speaks_ofExcept c.summary).bind fun _ => Job.speaks_forM _

theorem speaks_describe (o : Options) : (describe o).Speaks := by
  refine (Job.speaks_say _).bind fun _ => (Job.speaks_say _).bind fun _ =>
    (Job.speaks_say _).bind fun _ => ?_
  dsimp only
  cases o.certificate with
  | none =>
    split
    · exact (Job.speaks_say _).bind fun _ => Job.speaks_pure ()
    · exact (Job.speaks_say _).bind fun _ => Job.speaks_pure ()
    · exact (Job.speaks_say _).bind fun _ =>
        (speaks_describeCertificate _ _).bind fun _ => Job.speaks_pure ()
  | some c =>
    have hclient := speaks_describeCertificate "Client certificate" c.certificate
    split
    · exact (Job.speaks_say _).bind fun _ => hclient
    · exact (Job.speaks_say _).bind fun _ => hclient
    · exact (Job.speaks_say _).bind fun _ =>
        (speaks_describeCertificate _ _).bind fun _ => hclient

theorem describe_eq {o o' : Options} (h : o.Resembles o') : describe o' = describe o := by
  have hkind := h.strategy.kind_eq
  obtain ⟨-⟩ := h
  simp only [describe, hkind]
  rfl

theorem Report.Same.note {a : Audience} (hr : r.Same bare r') (ha : bare → a.file = none)
    (e : LogEntry) : (r.note a e).Same bare (r'.note a e) := by
  have houtput (r : Report) : (r.note a e).output = r.output := by
    rw [Report.note]
    split
    · rfl
    · dsimp only
      split
      · rfl
      · split <;> rfl
  refine ⟨by rw [houtput, houtput, hr.output], fun hb => ?_⟩
  simp only [Report.note, ha hb, hr.errors hb]
  split
  · exact hr.errors hb
  · rfl

theorem Report.Same.notes {a : Audience} (hr : r.Same bare r') (ha : bare → a.file = none)
    (entries : List LogEntry) :
    (entries.foldl (fun r e => r.note a e) r).Same bare
      (entries.foldl (fun r e => r.note a e) r') := by
  induction entries generalizing r r' with
  | nil => exact hr
  | cons e entries ih => exact ih (hr.note ha e)

theorem run_tell (a : Audience) (entries : List LogEntry) (r : Report) :
    (a.tell entries).run.run r = (.ok (), entries.foldl (fun r e => r.note a e) r) := rfl

def answerJob : List (Except Error Shown) → Job Unit
  | [.error e] => throw e
  | [.ok (.credential (some c))] => Job.say (describeCredential c)
  | _ => Job.say "Credential: none"

theorem speaks_answerJob (rs : List (Except Error Shown)) : (answerJob rs).Speaks := by
  unfold answerJob
  split
  next e => exact ⟨.error e, [], fun r => by rw [List.append_nil]; rfl⟩
  next => exact Job.speaks_say _
  next => exact Job.speaks_say _

theorem run_fetch [Library] {o : Options} (hv : o.validate = .ok ()) {s : Surroundings}
    {settings : Settings} {r : Report} {c : Connection}
    (hc : ((Session.ofScript (runs o s settings r.host) s.now).add o).connections = [c])
    (a : Audience) :
    (fetch o s settings a).run.run r =
      let asked := ((Session.ofScript (runs o s settings r.host) s.now).add o).ask c 1 .current
      (a.tell asked.1.world.log >>= fun _ => answerJob asked.2).run.run r := by
  rw [fetch, hv, Job.run_ofExcept_bind]
  dsimp only
  rw [Job.run_get_bind]
  simp only [hc]
  generalize Session.ask _ c 1 .current = asked
  obtain ⟨session, answers⟩ := asked
  rfl

theorem answerJob_eq {o o' : Options} (h : o.Resembles o') {rs rs' : List (Except Error Shown)}
    (hr : List.Forall₂ (Session.SameResult .current o o') rs rs') :
    answerJob rs' = answerJob rs := by
  cases hr with
  | nil => rfl
  | cons hr hrest =>
    cases hrest with
    | cons => simp only [answerJob]
    | nil =>
      obtain @⟨a, a', ha⟩ := hr
      have hcredential := h.currentCredential ha
      simp only [Purpose.result]
      generalize o.currentCredential a = x at hcredential
      generalize o'.currentCredential a' = x' at hcredential
      cases hcredential with
      | error he => rw [he]
      | @ok c c' hc =>
        cases rel_of_map_eq hc with
        | none => rfl
        | some hveil => exact congrArg Job.say (describeCredential_of_veil hveil)

theorem fetch_same [Library] {o o' : Options} (h : o.Resembles o') (hr : r.Same bare r')
    {s s' : Surroundings} {settings : Settings}
    (hruns : List.Forall₂ o.RunsAlike (runs o s settings r.host) (runs o' s' settings r'.host))
    (hnow : s'.now = s.now) {a : Audience} (ha : bare → a.file = none) :
    SameEnd bare ((fetch o s settings a).run.run r) ((fetch o' s' settings a).run.run r') := by
  cases hv : o.validate with
  | error e =>
    have hv' := h.validate_eq.trans hv
    rw [fetch, fetch, hv, hv', Job.run_ofExcept_bind, Job.run_ofExcept_bind]
    exact ⟨rfl, hr⟩
  | ok v =>
    have hv' := h.validate_eq.trans hv
    obtain ⟨c, c', rfl, rfl, hc, hopened, hopened', hsame⟩ := Session.add_same h hruns s.now
    obtain ⟨hasked, hanswers⟩ := hsame.ask hc 1 .current
    have hnow' : (Session.ofScript (runs c'.options s' settings r'.host) s'.now).add c'.options =
        (Session.ofScript (runs c'.options s' settings r'.host) s.now).add c'.options := by
      rw [hnow]
    rw [run_fetch hv hopened, run_fetch hv' (hnow' ▸ hopened'), hnow']
    dsimp only
    rw [Job.run_bind, Job.run_bind, run_tell, run_tell, answerJob_eq h hanswers, hasked.world.log]
    exact (speaks_answerJob _).same (hr.notes ha _)

def opened (args : Arguments) (s : Surroundings) : Except Error (Audience × Host) :=
  match args.value .logFile with
  | none => .ok (⟨args.flag .debug, none, s.now⟩, s.host)
  | some path =>
    ((FileLog.create s.host path (args.flag .debug)).mapError
      fun e => .badConfiguration path e.message).map
        fun made => (⟨args.flag .debug, some made.1, s.now⟩, made.2)

def settingsOf (args : Arguments) (h : Host) : Except Error Settings :=
  match args.value .settings with
  | some path => Settings.load h path
  | none => .ok .default

def prepared [Library] (args : Arguments) (s : Surroundings) :
    Except Error (Audience × Settings × Options) × Report :=
  match opened args s with
  | .error e => (.error e, ⟨[], [], s.host⟩)
  | .ok (a, h) =>
    match settingsOf args h with
    | .error e => (.error e, ⟨[], [], h⟩)
    | .ok settings =>
      let (entries, options) := connectionOptions args { s with host := h } settings
      (options.map (a, settings, ·), entries.foldl (fun r e => r.note a e) ⟨[], [], h⟩)

theorem run_audience (args : Arguments) (s : Surroundings) :
    (audience args s.now).run.run ⟨[], [], s.host⟩ =
      match opened args s with
      | .error e => (.error e, ⟨[], [], s.host⟩)
      | .ok (a, h) => (.ok a, ⟨[], [], h⟩) := by
  simp only [audience, opened]
  cases args.value .logFile with
  | none => rfl
  | some path =>
    dsimp only
    rw [Job.run_get_bind, Job.run_ofExcept_bind]
    cases FileLog.create s.host path (args.flag .debug) <;> rfl

theorem run_work [Library] (args : Arguments) (s : Surroundings) :
    (work args s).run.run ⟨[], [], s.host⟩ =
      match prepared args s with
      | (.error e, r) => (.error e, r)
      | (.ok (a, settings, o), r) =>
        (describe o >>= fun _ =>
          if args.flag .fetchCredential then fetch o s settings a else pure ()).run.run r := by
  rw [work, Job.run_bind, run_audience, prepared]
  cases opened args s with
  | error e => rfl
  | ok opened =>
    obtain ⟨a, h⟩ := opened
    dsimp only
    have hrest (settings : Settings) (r : Report) (options : List LogEntry × Except Error Options) :
        (a.tell options.1 >>= fun _ => Job.ofExcept options.2 >>= fun o => describe o >>= fun _ =>
          if args.flag .fetchCredential then fetch o s settings a else pure ()).run.run r =
        match (options.2.map (a, settings, ·), options.1.foldl (fun r e => r.note a e) r) with
        | (.error e, r) => (.error e, r)
        | (.ok (a, settings, o), r) =>
          (describe o >>= fun _ =>
            if args.flag .fetchCredential then fetch o s settings a else pure ()).run.run r := by
      rw [Job.run_bind, run_tell]
      dsimp only
      rw [Job.run_ofExcept_bind]
      cases options.2 <;> rfl
    simp only [settingsOf]
    cases args.value .settings with
    | none =>
      dsimp only
      rw [pure_bind, Job.run_get_bind]
      exact hrest _ _ _
    | some path =>
      dsimp only
      rw [Job.run_get_bind, Job.run_ofExcept_bind]
      cases Settings.load h path with
      | error e => rfl
      | ok settings =>
        dsimp only
        rw [Job.run_get_bind]
        exact hrest _ _ _

/-- What the program reads, once its log is open, differs only in secrets. -/
structure ReadsAlike (args : Arguments) (s s' : Surroundings) : Prop where
  environment : s'.environment = s.environment
  home : s'.host.home = s.host.home
  settings : settingsOf args s'.host = settingsOf args s.host
  account : args.flag .inCluster = true →
    Pod.ReadsAlike s.host s'.host Pod.accountDirectory
  kubeconfig : args.flag .inCluster = false → ∀ path, kubeconfigPath args s = .ok path →
    Except.Rel Eq Kubeconfig.Resembles (Kubeconfig.load s.host path) (Kubeconfig.load s'.host path)
  references : args.flag .inCluster = false → ∀ path k, kubeconfigPath args s = .ok path →
    Kubeconfig.load s.host path = .ok k →
    Resolver.ReadsAlike s.host s'.host k (args.value .context)

theorem ReadsAlike.connectionOptions [Library] {args : Arguments} {s s' : Surroundings}
    (h : ReadsAlike args s s') (settings : Settings) :
    (connectionOptions args s' settings).1 = (connectionOptions args s settings).1 ∧
      Except.Rel Eq Options.Resembles (connectionOptions args s settings).2
        (connectionOptions args s' settings).2 := by
  have hpath : kubeconfigPath args s' = kubeconfigPath args s := by
    simp only [kubeconfigPath, Kubeconfig.defaultPath?, h.environment, h.home]
  simp only [CommandLine.connectionOptions, hpath]
  cases hin : args.flag .inCluster with
  | true =>
    have hpod : pod s' = pod s := by rw [pod, pod, h.environment]
    rw [if_pos rfl, if_pos rfl, podOptions, podOptions, hpod]
    refine ⟨rfl, ?_⟩
    refine ((h.account hin).options (pod s)).map ?_
    rintro o _ ⟨hst⟩
    exact .intro hst
  | false =>
    rw [if_neg Bool.false_ne_true, if_neg Bool.false_ne_true]
    cases hp : kubeconfigPath args s with
    | error e => exact ⟨rfl, .error rfl⟩
    | ok path =>
      have hload := h.kubeconfig hin path hp
      dsimp only [contextOptions]
      generalize hk : Kubeconfig.load s.host path = x at hload
      generalize Kubeconfig.load s'.host path = x' at hload
      cases hload with
      | error he =>
        rw [he]
        exact ⟨rfl, .error rfl⟩
      | @ok k k' hres =>
        have hreads := h.references hin path k hp hk
        obtain ⟨hentries, hoptions⟩ :=
          Resolver.resolve_resembles hres settings hreads (args.value .namespaceName)
        exact ⟨congrArg (List.cons _) hentries, hoptions⟩

/-- Two runs of the program that differ only in secrets. -/
structure Surroundings.Resembles [Library] (args : Arguments) (s s' : Surroundings) : Prop where
  now : s'.now = s.now
  reads : Except.Rel Eq (fun x x' : Audience × Host =>
      x'.1 = x.1 ∧ ReadsAlike args { s with host := x.2 } { s' with host := x'.2 })
    (opened args s) (opened args s')
  runs : args.flag .fetchCredential = true → ∀ a settings o r a' settings' o' r',
    prepared args s = (.ok (a, settings, o), r) → prepared args s' = (.ok (a', settings', o'), r') →
      List.Forall₂ o.RunsAlike (runs o s settings r.host) (runs o' s' settings' r'.host)

/-- Runs in the same surroundings, but for what their commands put out. -/
theorem Surroundings.resembles_of_runs [Library] {args : Arguments} {s : Surroundings}
    {l : Launcher}
    (hruns : ∀ a settings o r, prepared args s = (.ok (a, settings, o), r) →
      List.Forall₂ o.RunsAlike (CommandLine.runs o s settings r.host)
        (CommandLine.runs o { s with launcher := l } settings r.host)) :
    Surroundings.Resembles args s { s with launcher := l } where
  now := rfl
  reads := by
    refine Except.Rel.refl (fun _ => rfl) (fun x => ⟨rfl, ?_⟩) _
    exact {
      environment := rfl
      home := rfl
      settings := rfl
      account := fun _ => ⟨.same _, rfl, rfl⟩
      kubeconfig := fun _ path _ => .refl (fun _ => rfl) .refl _
      references := fun _ _ _ _ _ =>
        ⟨rfl, fun _ _ _ _ _ _ _ => rfl, fun _ _ _ _ _ => .other fun _ _ => rfl⟩ }
  runs _ a settings o r a' settings' o' r' h h' := by
    cases h.symm.trans h'
    exact hruns a settings o r h

theorem file_eq_none_of_opened {args : Arguments} {s : Surroundings} {a : Audience} {h : Host}
    (ho : opened args s = .ok (a, h)) (hbare : args.value .logFile = none) : a.file = none := by
  rw [opened, hbare] at ho
  cases ho
  rfl

inductive Prepared (bare : Prop) :
    Except Error (Audience × Settings × Options) × Report →
      Except Error (Audience × Settings × Options) × Report → Prop where
  | failed {r r' : Report} (e : Error) (hr : r.Same bare r') :
    Prepared bare (.error e, r) (.error e, r')
  | ready {r r' : Report} {a : Audience} {o o' : Options} (ha : bare → a.file = none)
    (settings : Settings) (ho : o.Resembles o') (hr : r.Same bare r') :
    Prepared bare (.ok (a, settings, o), r) (.ok (a, settings, o'), r')

theorem Surroundings.Resembles.prepared [Library] {args : Arguments} {s s' : Surroundings}
    (h : Surroundings.Resembles args s s') :
    Prepared (args.value .logFile = none) (prepared args s) (prepared args s') := by
  have hopened := h.reads
  have hfile := @file_eq_none_of_opened args s
  have hempty (h h' : Host) :
      (⟨[], [], h⟩ : Report).Same (args.value .logFile = none) ⟨[], [], h'⟩ :=
    ⟨rfl, fun _ => rfl⟩
  rw [CommandLine.prepared, CommandLine.prepared]
  generalize opened args s = x at hopened hfile
  generalize opened args s' = x' at hopened
  cases hopened with
  | @error e e' he =>
    rw [he]
    exact .failed e' (hempty _ _)
  | @ok x x' hreads =>
    obtain ⟨a, k⟩ := x
    obtain ⟨a', k'⟩ := x'
    obtain ⟨rfl, hreads⟩ : a' = a ∧ _ := hreads
    dsimp only
    rw [hreads.settings]
    cases settingsOf args k with
    | error e => exact .failed e (hempty _ _)
    | ok settings =>
      dsimp only
      obtain ⟨hentries, hoptions⟩ := hreads.connectionOptions settings
      have hnotes := (hempty k k').notes (hfile rfl)
        (connectionOptions args { s with host := k } settings).1
      rw [hentries]
      generalize (connectionOptions args { s with host := k } settings).2 = x at hoptions
      generalize (connectionOptions args { s' with host := k' } settings).2 = x' at hoptions
      cases hoptions with
      | @error e e' he =>
        rw [he]
        exact .failed e' hnotes
      | ok ho => exact .ready (hfile rfl) settings ho hnotes

theorem work_same [Library] {args : Arguments} {s s' : Surroundings}
    (h : Surroundings.Resembles args s s') :
    SameEnd (args.value .logFile = none) ((work args s).run.run ⟨[], [], s.host⟩)
      ((work args s').run.run ⟨[], [], s'.host⟩) := by
  have hprepared := h.prepared
  have hruns := h.runs
  rw [run_work, run_work]
  generalize CommandLine.prepared args s = y at hprepared hruns
  generalize CommandLine.prepared args s' = y' at hprepared hruns
  cases hprepared with
  | failed e hr => exact ⟨rfl, hr⟩
  | @ready r r' a o o' ha settings ho hr =>
    dsimp only
    obtain ⟨result, lines, hdescribe⟩ := speaks_describe o
    rw [describe_eq ho, Job.run_bind, Job.run_bind, hdescribe, hdescribe]
    have hsaid : ({ r with output := r.output ++ lines } : Report).Same _
        { r' with output := r'.output ++ lines } :=
      ⟨congrArg (· ++ lines) hr.output, hr.errors⟩
    cases result with
    | error e => exact ⟨rfl, hsaid⟩
    | ok u =>
      dsimp only
      cases hfetch : args.flag .fetchCredential with
      | false => exact ⟨rfl, hsaid⟩
      | true =>
        have hlaunched := hruns hfetch _ _ _ _ _ _ _ _ rfl rfl
        exact fetch_same ho hsaid hlaunched h.now ha

/-- Of two runs of the program that differ only in secrets the reports are the same. -/
theorem report_same [Library] {args : Arguments} {s s' : Surroundings}
    (h : Surroundings.Resembles args s s') :
    (report args s').2 = (report args s).2 ∧
      (report args s).1.Same (args.value .logFile = none) (report args s').1 := by
  obtain ⟨hresult, hreport⟩ := work_same h
  rw [report, report]
  generalize (work args s).run.run ⟨[], [], s.host⟩ = y at hresult hreport
  generalize (work args s').run.run ⟨[], [], s'.host⟩ = y' at hresult hreport
  obtain ⟨x, r⟩ := y
  obtain ⟨x', r'⟩ := y'
  obtain rfl : x' = x := hresult
  cases x' with
  | ok u => exact ⟨rfl, hreport⟩
  | error e => exact ⟨rfl, hreport.output, fun hb => congrArg (· ++ _) (hreport.errors hb)⟩

end ClusterAccess.CommandLine
