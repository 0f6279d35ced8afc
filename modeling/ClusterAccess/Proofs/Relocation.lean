import ClusterAccess.Crypto.Keys
import ClusterAccess.Kubeconfig.Decode
import ClusterAccess.Proofs.FileSystem
import ClusterAccess.Proofs.Precedence
import Mathlib.Data.Option.Basic

namespace ClusterAccess

open FileSystem (Twins Fits)

/-- The same value, or errors of the same kind. -/
def SameOutcome {α : Type} : Except Error α → Except Error α → Prop :=
  Except.Rel (fun e e' => e'.kind = e.kind) Eq

namespace SameOutcome

variable {α : Type} {x x' : Except Error α}

theorem refl (x : Except Error α) : SameOutcome x x := by
  cases x with
  | error e => exact .error rfl
  | ok a => exact .ok rfl

theorem toOption_eq (h : SameOutcome x x') : x'.toOption = x.toOption := by
  cases h with
  | error => rfl
  | ok h => rw [h]

end SameOutcome

/-- A path that starts in the directory of the document and stays there. -/
structure Path.IsLocal (p : String) : Prop where
  relative : isAbsolute p = false
  plain : p.toList.head? ≠ some '~'
  within : ".." ∉ parts p

/-- A path that starts at the root, or at a home directory that does. -/
inductive Path.IsAnchored (home : Option String) : String → Prop where
  | absolute {p : String} (h : isAbsolute p = true) : IsAnchored home p
  | home {dir : String} (hh : home = some dir) (ha : isAbsolute dir = true) : IsAnchored home "~"
  | underHome {dir rest : String} (hh : home = some dir) (ha : isAbsolute dir = true) :
    IsAnchored home ("~/" ++ rest)

def Cluster.paths (c : Cluster) : List String := [c.authorityFile].filterMap Text.nonBlank?

def User.paths (u : User) : List String :=
  [u.certificateFile, u.keyFile, u.tokenFile].filterMap Text.nonBlank?

namespace Kubeconfig

def paths (k : Kubeconfig) (context : Option String) : List String :=
  match Resolver.select k context with
  | .ok (_, _, c, u) => c.paths ++ u.paths
  | .error _ => []

/-- What the kubeconfig at a path comes to. -/
def optionsAt [Library] (h : Host) (s : Settings) (path : String)
    (context namespaceName : Option String) : Except Error Options := do
  (Resolver.resolve h s (← load h path) context namespaceName).2

structure IsLocal (h : Host) (base file : String) (context : Option String) : Prop where
  relative : Path.isAbsolute file = false
  within : ".." ∉ Path.parts file
  paths : ∀ {k}, load h (Path.join base file) = .ok k → ∀ p ∈ k.paths context, Path.IsLocal p

structure FitsAlike (h h' : Host) (base base' file : String) (context : Option String) : Prop where
  document : Fits (Path.join base' file) ↔ Fits (Path.join base file)
  paths : ∀ {k k'}, load h (Path.join base file) = .ok k →
    load h' (Path.join base' file) = .ok k' → ∀ p ∈ k.paths context,
    (Fits (Resolver.resolvePath h' k'.directory p) ↔ Fits (Resolver.resolvePath h k.directory p))

end Kubeconfig

section Loading

variable {h h' : Host}

inductive Material.Moved (h h' : Host) : Material → Material → Prop where
  | inline (data : String) : Moved h h' (.inline data) (.inline data)
  | file {p p' : String} (hr : h'.read p' = h.read p) : Moved h h' (.file p) (.file p')

theorem Reader.load_moved {α : Type} {r : Reader α} {m m' : Material}
    (hm : Material.Moved h h' m m') : SameOutcome (r.load h m) (r.load h' m') := by
  cases hm with
  | inline data => exact SameOutcome.refl _
  | @file p p' hr =>
    simp only [load, Material.read, hr]
    cases h.read p with
    | error e => exact .error rfl
    | ok bytes =>
      simp only [parse, Except.mapError, bind, Except.bind]
      cases r.ofBytes? bytes with
      | none => exact .error rfl
      | some a => exact .ok rfl

theorem ClientCertificate.load_moved [Library] {m m' : Material} {key key' : Option Material}
    (hm : Material.Moved h h' m m') (hk : Option.Rel (Material.Moved h h') key key') :
    SameOutcome (ClientCertificate.load h m key) (ClientCertificate.load h' m' key') := by
  refine (Reader.load_moved hm).bind fun c c' _ hc => ?_
  subst hc
  cases hk with
  | none => exact SameOutcome.refl _
  | some hk =>
    refine (Reader.load_moved hk).bind fun k k' _ heq => ?_
    subst heq
    exact SameOutcome.refl _

namespace Resolver

inductive Offer.Moved (h h' : Host) : Offer → Offer → Prop where
  | certificate {m m' : Material} {key key' : Option Material} (hm : Material.Moved h h' m m')
    (hk : Option.Rel (Material.Moved h h') key key') :
    Moved h h' (.certificate m key) (.certificate m' key')
  | tokenFile {p p' : String} (hr : h'.read p' = h.read p) :
    Moved h h' (.tokenFile p) (.tokenFile p')
  | fileless {o : Offer} (ho : o.files = []) : Moved h h' o o

theorem Offer.strategy_moved [Library] {o o' : Offer} (ho : Offer.Moved h h' o o') (s : Settings)
    (c : Cluster)
    (a : Option ClusterAuthority) : SameOutcome (o.strategy h s c a) (o'.strategy h' s c a) := by
  cases ho with
  | certificate hm hk => exact (ClientCertificate.load_moved hm hk).map fun _ _ h => congrArg _ h
  | @tokenFile p p' hr =>
    simp only [Offer.strategy, Host.readText, hr]
    cases h.read p with
    | error e => exact .error rfl
    | ok bytes =>
      simp only [bind, Except.bind]
      cases Text.decodeUtf8? bytes with
      | none => exact .error rfl
      | some t => exact .ok rfl
  | fileless ho =>
    have hsame : o.strategy h' s c a = o.strategy h s c a :=
      Offer.strategy_congr s c a fun p hp => by simp [ho] at hp
    rw [hsame]
    exact SameOutcome.refl _

variable {path path' : String → String}

theorem material?_moved (data : Option String) {file : Option String}
    (hf : ∀ p, Text.nonBlank? file = some p → h'.read (path' p) = h.read (path p)) :
    Option.Rel (Material.Moved h h') (material? path data file) (material? path' data file) := by
  simp only [material?]
  cases Text.nonBlank? data with
  | some d => exact .some (.inline d)
  | none =>
    cases hp : Text.nonBlank? file with
    | none => exact .none
    | some p => exact .some (.file (hf p hp))

theorem offer_moved {u : User} (hu : ∀ p ∈ u.paths, h'.read (path' p) = h.read (path p)) :
    Offer.Moved h h' (offer path u) (offer path' u) := by
  have hread (file : Option String) (hfile : file ∈ [u.certificateFile, u.keyFile, u.tokenFile])
      (p : String) (hp : Text.nonBlank? file = some p) : h'.read (path' p) = h.read (path p) :=
    hu p (List.mem_filterMap.2 ⟨file, hfile, hp⟩)
  have hcert := material?_moved u.certificateData (hread u.certificateFile (by simp))
  have hkey := material?_moved u.keyData (hread u.keyFile (by simp))
  have htoken := hread u.tokenFile (by simp)
  simp only [offer]
  generalize material? path u.certificateData u.certificateFile = m at hcert
  generalize material? path' u.certificateData u.certificateFile = m' at hcert
  generalize material? path u.keyData u.keyFile = key at hkey
  generalize material? path' u.keyData u.keyFile = key' at hkey
  cases hcert with
  | some hm => exact .certificate hm hkey
  | none =>
    cases hkey with
    | some => exact .fileless rfl
    | none =>
      cases Text.nonBlank? u.token with
      | some t => exact .fileless rfl
      | none =>
        cases hp : Text.nonBlank? u.tokenFile with
        | some p => exact .tokenFile (htoken p hp)
        | none =>
          refine .fileless ?_
          cases Text.nonBlank? u.username <;> cases Text.nonBlank? u.password <;>
            cases u.authProvider <;> cases u.exec <;> rfl

theorem authority_moved [Library] {c : Cluster} {directory directory' : Option String}
    (hc : ∀ p ∈ c.paths, h'.read (resolvePath h' directory' p) = h.read (resolvePath h directory p)) :
    SameOutcome (authority h directory c) (authority h' directory' c) := by
  simp only [authority]
  cases Text.nonBlank? c.authorityData with
  | some data => exact SameOutcome.refl _
  | none =>
    cases hp : Text.nonBlank? c.authorityFile with
    | none => exact SameOutcome.refl _
    | some p =>
      exact (Reader.load_moved (.file (hc p (by simp [Cluster.paths, hp])))).map
        fun _ _ h => by rw [h]

/-- Where it lies makes no difference to a kubeconfig whose files hold the same. -/
theorem resolution_moved [Library] {k : Kubeconfig} {directory' : Option String}
    {context : Option String} (hk : ∀ p ∈ k.paths context,
      h'.read (resolvePath h' directory' p) = h.read (resolvePath h k.directory p))
    (s : Settings) (namespaceName : Option String) :
    SameOutcome (resolution h s k context namespaceName)
      (resolution h' s { k with directory := directory' } context namespaceName) := by
  refine (SameOutcome.refl _).bind fun _ _ _ _ => (SameOutcome.refl (select k context)).bind ?_
  rintro ⟨name, x, c, u⟩ _ hselect rfl
  have hpaths (p : String) (hp : p ∈ c.paths ++ u.paths) :=
    hk p (by rwa [Kubeconfig.paths, hselect])
  refine (SameOutcome.refl _).bind fun e e' _ he => ?_
  subst he
  refine (authority_moved fun p hp => hpaths p (List.mem_append_left _ hp)).bind fun a a' _ ha => ?_
  subst ha
  have hoffer := offer_moved fun p hp => hpaths p (List.mem_append_right _ hp)
  refine (Offer.strategy_moved hoffer s c a).bind fun st st' _ hst => ?_
  subst hst
  exact SameOutcome.refl _

theorem resolve_moved [Library] {k : Kubeconfig} {directory' : Option String}
    {context : Option String} (hk : ∀ p ∈ k.paths context,
      h'.read (resolvePath h' directory' p) = h.read (resolvePath h k.directory p))
    (s : Settings) (namespaceName : Option String) :
    SameOutcome (resolve h s k context namespaceName).2
      (resolve h' s { k with directory := directory' } context namespaceName).2 := by
  have hmoved := resolution_moved hk s namespaceName
  simp only [resolve]
  generalize resolution h s k context namespaceName = r at hmoved
  generalize resolution h' s _ context namespaceName = r' at hmoved
  cases hmoved with
  | error he => exact .error he
  | ok hr =>
    subst hr
    exact SameOutcome.refl _

theorem exists_of_mem_files {u : User} {p : String} (hp : p ∈ (offer path u).files) :
    ∃ q, p = path q := by
  rw [offer_eq] at hp
  replace hp := Source.files_offer_subset path u _ hp
  have hmaterial {data file : Option String} (hm : p ∈ Source.materialFiles path data file) :
      ∃ q, p = path q := by
    simp only [Source.materialFiles] at hm
    split at hm
    next => cases hm
    next =>
      obtain ⟨q, -, hq⟩ := Option.map_eq_some_iff.1 (Option.mem_toList.1 hm)
      exact ⟨q, hq.symm⟩
  cases hw : Source.winner u with
  | certificate =>
    rw [hw, Source.files, List.mem_append] at hp
    exact hp.elim hmaterial hmaterial
  | tokenFile =>
    rw [hw, Source.files, List.mem_singleton] at hp
    exact ⟨_, hp⟩
  | keyOnly => rw [hw] at hp; cases hp
  | token => rw [hw] at hp; cases hp
  | password => rw [hw] at hp; cases hp
  | provider => rw [hw] at hp; cases hp
  | exec => rw [hw] at hp; cases hp
  | nothing => rw [hw] at hp; cases hp

theorem resolve_elsewhere [Library] {k : Kubeconfig} {base : String}
    (hk : k.directory = some base) (hb : Path.isAbsolute base = true) (place : Place) (s : Settings)
    (context namespaceName : Option String) :
    resolve { h with workingDirectory := place } s k context namespaceName =
      resolve h s k context namespaceName := by
  have hread (p : String) : ({ h with workingDirectory := place } : Host).read
      (resolvePath h k.directory p) = h.read (resolvePath h k.directory p) := by
    refine Host.read_elsewhere ?_ place
    rw [resolvePath, hk]
    exact Path.isAbsolute_join hb
  have hauthority (c : Cluster) :
      authority { h with workingDirectory := place } k.directory c = authority h k.directory c :=
    authority_congr rfl fun p _ => hread p
  have hstrategy (c : Cluster) (a : Option ClusterAuthority) (u : User) :
      strategy { h with workingDirectory := place } s k.directory c a u =
        strategy h s k.directory c a u := by
    refine Offer.strategy_congr s c a fun p hp => ?_
    obtain ⟨q, rfl⟩ := exists_of_mem_files hp
    exact hread q
  simp only [resolve, resolution, hauthority, hstrategy]

end Resolver

end Loading

namespace Path

theorem resolve_of_isLocal {p : String} (hp : IsLocal p) (home : Option String) (base : String) :
    resolve home (some base) p = join base p := by
  have hexpand : expandHome home p = p := by
    have hplain := hp.plain
    fun_cases expandHome home p with
    | case1 dir h => simp [h] at hplain
    | case2 dir cs h => simp [h] at hplain
    | case3 => rfl
  rw [resolve, hexpand]

theorem IsAnchored.isAbsolute {home : Option String} {p : String} (hp : IsAnchored home p) :
    isAbsolute (expandHome home p) = true := by
  cases hp with
  | absolute ha =>
    rw [expandHome_of_isAbsolute ha]
    exact ha
  | @home dir hh ha =>
    subst hh
    exact ha
  | @underHome dir rest hh ha =>
    subst hh
    obtain ⟨cs, rfl⟩ := isAbsolute_iff.1 ha
    simp [expandHome, Path.isAbsolute]

theorem IsAnchored.resolve_eq {home : Option String} {p : String} (hp : IsAnchored home p)
    (directory : Option String) : resolve home directory p = expandHome home p := by
  cases directory with
  | none => rfl
  | some base => rw [resolve, join, hp.isAbsolute, Bool.true_or, if_pos rfl]

end Path

namespace Kubeconfig

variable {h h' : Host} {base base' file : String} {place place' : Place} {context : Option String}

/-- A kubeconfig is read alike in two directories with the same below them. -/
theorem load_moved (t : Twins h.files h'.files base base' place place')
    (hrel : Path.isAbsolute file = false) (hup : ".." ∉ Path.parts file)
    (hf : Fits (Path.join base' file) ↔ Fits (Path.join base file)) :
    (∃ e e', load h (Path.join base file) = .error e ∧ load h' (Path.join base' file) = .error e' ∧
      e'.kind = e.kind) ∨
    ∃ k : Kubeconfig, ∃ above above' q q',
      load h (Path.join base file) = .ok { k with directory := some above } ∧
      load h' (Path.join base' file) = .ok { k with directory := some above' } ∧
      Twins h.files h'.files above above' q q' := by
  have habs := Path.isAbsolute_join (p := file) t.left.absolute
  have habs' := Path.isAbsolute_join (p := file) t.right.absolute
  have hread := t.read_join hrel hup hf
  simp only [load, Path.expandHome_of_isAbsolute habs, Path.expandHome_of_isAbsolute habs',
    Host.readText, hread]
  cases hbytes : h.read (Path.join base file) with
  | error e => exact .inl ⟨_, _, rfl, rfl, rfl⟩
  | ok bytes =>
    obtain ⟨hclean, found, hfound⟩ := Host.walk_of_read habs hbytes
    rw [Path.mem_toList_join t.left.absolute hrel, not_or] at hclean
    obtain ⟨above, above', q, q', hparent, hparent', ht⟩ := t.parent hrel hup hclean.2 hfound
    simp only [bind, Except.bind]
    cases Text.decodeUtf8? bytes with
    | none => exact .inl ⟨_, _, rfl, rfl, rfl⟩
    | some text =>
      simp only [pure, Except.pure, parse, hparent, hparent']
      cases parse? text with
      | none => exact .inl ⟨_, _, rfl, rfl, rfl⟩
      | some k => exact .inr ⟨k, above, above', q, q', rfl, rfl, ht⟩

theorem optionsAt_of_load [Library] {path : String} {k : Kubeconfig} (hk : load h path = .ok k)
    (s : Settings) (context namespaceName : Option String) :
    optionsAt h s path context namespaceName =
      (Resolver.resolve h s k context namespaceName).2 := by
  simp only [optionsAt, hk, bind, Except.bind]

theorem optionsAt_moved [Library] (t : Twins h.files h'.files base base' place place')
    (hl : IsLocal h base file context) (hf : FitsAlike h h' base base' file context) (s : Settings)
    (namespaceName : Option String) :
    SameOutcome (optionsAt h s (Path.join base file) context namespaceName)
      (optionsAt h' s (Path.join base' file) context namespaceName) := by
  obtain ⟨e, e', he, he', hkind⟩ | ⟨k, above, above', q, q', hk, hk', ht⟩ :=
    load_moved t hl.relative hl.within hf.document
  · rw [optionsAt, optionsAt, he, he']
    exact .error hkind
  · rw [optionsAt_of_load hk, optionsAt_of_load hk']
    refine Resolver.resolve_moved (k := { k with directory := some above }) (fun p hp => ?_) s _
    have hlocal := hl.paths hk p hp
    have hfits := hf.paths hk hk' p hp
    simp only [Resolver.resolvePath, Path.resolve_of_isLocal hlocal] at hfits ⊢
    exact ht.read_join hlocal.relative hlocal.within hfits

theorem load_of_text {path text : String} {bytes : List UInt8} {k : Kubeconfig}
    (ha : Path.isAbsolute path = true) (hr : h.read path = .ok bytes)
    (ht : Text.decodeUtf8? bytes = some text) (hk : parse? text = some k) :
    load h path = .ok { k with directory := Path.parent? path } := by
  simp only [load, Path.expandHome_of_isAbsolute ha, Host.readText, hr, bind, Except.bind, ht, pure,
    Except.pure, parse, hk, Except.map]

theorem exists_read {path : String} {k : Kubeconfig} (ha : Path.isAbsolute path = true)
    (hk : load h path = .ok k) :
    (∃ bytes, h.read path = .ok bytes) ∧ k.directory = Path.parent? path := by
  simp only [load, Path.expandHome_of_isAbsolute ha, Host.readText] at hk
  cases hbytes : h.read path with
  | error e =>
    rw [hbytes] at hk
    cases hk
  | ok bytes =>
    refine ⟨⟨bytes, rfl⟩, ?_⟩
    simp only [hbytes, bind, Except.bind] at hk
    cases htext : Text.decodeUtf8? bytes with
    | none =>
      rw [htext] at hk
      cases hk
    | some text =>
      rw [htext] at hk
      obtain ⟨k, -, rfl⟩ := Except.map_eq_ok_iff.1 hk
      rfl

theorem toOption_optionsAt_of_not_fits [Library] {path : String}
    (ha : Path.isAbsolute path = true)
    (hf : ¬ Fits path) (h : Host) (s : Settings) (context namespaceName : Option String) :
    (optionsAt h s path context namespaceName).toOption = none := by
  cases hk : load h path with
  | error e => simp only [optionsAt, hk, bind, Except.bind, Except.toOption]
  | ok k =>
    obtain ⟨⟨bytes, hbytes⟩, -⟩ := exists_read ha hk
    exact (hf (Host.fits_of_read hbytes)).elim

theorem exists_directory {path : String} {k : Kubeconfig} (ha : Path.isAbsolute path = true)
    (hk : load h path = .ok k) : ∃ above q, k.directory = some above ∧ h.files.Leads above q := by
  obtain ⟨⟨bytes, hbytes⟩, hdirectory⟩ := exists_read ha hk
  obtain ⟨hclean, found, hfound⟩ := Host.walk_of_read ha hbytes
  obtain ⟨-, -, above, q, -, -, hparent, hleads⟩ := FileSystem.exists_parent ha hclean hfound
  exact ⟨above, q, hdirectory.trans hparent, hleads⟩

theorem optionsAt_elsewhere [Library] {path : String} (ha : Path.isAbsolute path = true)
    (place : Place) (s : Settings) (context namespaceName : Option String) :
    optionsAt { h with workingDirectory := place } s path context namespaceName =
      optionsAt h s path context namespaceName := by
  have hload : load { h with workingDirectory := place } path = load h path := by
    simp only [load, Path.expandHome_of_isAbsolute ha, Host.readText, Host.read_elsewhere ha]
  simp only [optionsAt, hload]
  cases hk : load h path with
  | error e => simp only [bind, Except.bind]
  | ok k =>
    obtain ⟨above, q, hdirectory, hleads⟩ := exists_directory ha hk
    exact congrArg Prod.snd
      (Resolver.resolve_elsewhere hdirectory hleads.absolute place s context namespaceName)

/-- Where a kubeconfig lies does not matter to what it comes to. -/
structure Relocatable [Library] : Prop where
  moved : ∀ {h h' : Host} {base base' file : String} {place place' : Place}
    {context : Option String}, Twins h.files h'.files base base' place place' →
    IsLocal h base file context → FitsAlike h h' base base' file context →
    ∀ s namespaceName, SameOutcome (optionsAt h s (Path.join base file) context namespaceName)
      (optionsAt h' s (Path.join base' file) context namespaceName)
  elsewhere : ∀ {h : Host} {path : String}, Path.isAbsolute path = true →
    ∀ place s context namespaceName,
      optionsAt { h with workingDirectory := place } s path context namespaceName =
        optionsAt h s path context namespaceName
  anchored : ∀ {h : Host} {p : String}, Path.IsAnchored h.home p →
    ∀ directory, Resolver.resolvePath h directory p = Path.expandHome h.home p ∧
      ∀ place, ({ h with workingDirectory := place } : Host).read (Path.expandHome h.home p) =
        h.read (Path.expandHome h.home p)

theorem relocatable [Library] : Relocatable where
  moved t hl hf s namespaceName := optionsAt_moved t hl hf s namespaceName
  elsewhere ha place s context namespaceName := optionsAt_elsewhere ha place s context namespaceName
  anchored hp directory := ⟨hp.resolve_eq directory, Host.read_elsewhere hp.isAbsolute⟩

def smallText : String :=
  "contexts: [{name: c, context: {cluster: c, user: c}}]\n" ++
    "clusters: [{name: c, cluster: {server: http://k}}]\nusers: [{name: c, user: {tokenFile: t}}]"

def smallHost (base : Place) : Host where
  files := ⟨fun p =>
    if p = base ++ ["config"] then some (.file (Text.utf8 smallText))
    else if p = base ++ ["t"] then some (.file (Text.utf8 "secret"))
    else if p.isPrefixOf base then some .directory
    else none⟩
  home := none
  workingDirectory := []

theorem below_smallHost (base : Place) :
    (smallHost base).files.below base = (smallHost []).files := by
  simp only [FileSystem.below, smallHost, FileSystem.mk.injEq]
  funext p
  by_cases hp : p = []
  · subst hp
    rfl
  · have hprefix : (base ++ p).isPrefixOf base = false := by
      rw [Bool.eq_false_iff, Ne, List.isPrefixOf_iff_prefix]
      intro h
      exact hp (List.append_right_eq_self.1 (h.eq_of_length_le (by simp)))
    have hroot : p.isPrefixOf [] = false := by
      obtain ⟨part, more, rfl⟩ := List.exists_cons_of_ne_nil hp
      rfl
    simp only [hp, hprefix, hroot, List.append_cancel_left_eq, List.nil_append, if_false,
      Bool.false_eq_true]

theorem load_smallHost {path : String} {base : Place} (ha : Path.isAbsolute path = true)
    (hr : (smallHost base).read path = .ok (Text.utf8 smallText)) :
    ∃ k : Kubeconfig, load (smallHost base) path = .ok { k with directory := Path.parent? path } ∧
      k.paths (some "c") = ["t"] ∧
      (Resolver.resolve (smallHost []) .default { k with directory := some "/" } (some "c")
        none).2.toOption.map (·.strategy) = some (.token "secret") := by
  have hparsed : ((Text.decodeUtf8? (Text.utf8 smallText)).bind parse?).map
      (fun k => (k.paths (some "c"),
        (Resolver.resolve (smallHost []) .default { k with directory := some "/" } (some "c")
          none).2.toOption.map (·.strategy))) = some (["t"], some (.token "secret")) := by
    decide +kernel
  obtain ⟨k, hk, hresult⟩ := Option.map_eq_some_iff.1 hparsed
  obtain ⟨text, htext, hk⟩ := Option.bind_eq_some_iff.1 hk
  obtain ⟨hpaths, hstrategy⟩ := Prod.mk.inj hresult
  exact ⟨k, load_of_text ha hr htext hk, hpaths, hstrategy⟩

/-- The root, by a path with so many dots in it. -/
def dottedRoot (dots : Nat) : String :=
  String.ofList ('/' :: (List.replicate dots ['.', '/']).flatten)

theorem leads_dottedRoot (fs : FileSystem) (dots : Nat) : fs.Leads (dottedRoot dots) [] where
  absolute := Path.isAbsolute_iff.2 ⟨_, rfl⟩
  clean := by
    rw [dottedRoot, String.toList_ofList]
    simp
  walked := by
    have hstay {part : String} (hpart : part = "" ∨ part = ".") (more : List String) :
        fs.walk [] .directory (part :: more) = fs.walk [] .directory more := by
      rw [FileSystem.walk, if_pos (by simpa using hpart)]
    have hdots : fs.walk [] .directory
        (Path.parts (String.ofList (List.replicate dots ['.', '/']).flatten)) =
          .ok (.present [] .directory) := by
      induction dots with
      | zero => rfl
      | succ dots ih =>
        have hdot : Path.parts (String.ofList ['.']) = ["."] := Path.parts_of_not_mem (by decide)
        have hparts := Path.parts_append_slash ['.'] (List.replicate dots ['.', '/']).flatten
        rw [hdot, List.singleton_append] at hparts
        exact (congrArg _ hparts).trans ((hstay (.inr rfl) _).trans ih)
    have hempty : Path.parts (String.ofList []) = [""] := Path.parts_of_not_mem List.not_mem_nil
    have hparts := Path.parts_append_slash [] (List.replicate dots ['.', '/']).flatten
    rw [hempty, List.singleton_append] at hparts
    exact (congrArg _ hparts).trans ((hstay (.inl rfl) _).trans hdots)

theorem length_le_utf8 (cs : List Char) : cs.length ≤ (Text.utf8Chars cs).length := by
  induction cs with
  | nil => exact Nat.le_refl 0
  | cons c cs ih =>
    have hc := Char.utf8Size_pos c
    rw [Text.utf8Chars, List.flatMap_cons, List.length_append, String.length_utf8EncodeChar,
      List.length_cons]
    rw [Text.utf8Chars] at ih
    omega

theorem length_dottedRoot (dots : Nat) : (dottedRoot dots).toList.length = dots * 2 + 1 := by
  simp [dottedRoot]

theorem not_fits_dottedRoot : ¬ Fits (Path.join (dottedRoot 2046) "config") := by
  obtain ⟨cs, hcs, hjoin⟩ := Path.exists_join_eq (leads_dottedRoot .empty 2046).absolute
  have hroot := length_dottedRoot 2046
  have hlong : 4092 ≤ cs.length := by
    obtain h | h := hcs
    · rw [h, String.toList_ofList] at hroot
      omega
    · rw [h, String.toList_ofList, List.length_append, List.length_singleton] at hroot
      omega
  have hlength := length_le_utf8 (cs ++ '/' :: "config".toList)
  rw [hjoin _ rfl, Fits, Text.utf8, String.toList_ofList, FileSystem.maxPath]
  have hname : "config".toList.length = 6 := rfl
  rw [List.length_append, List.length_cons, hname] at hlength
  omega

theorem isLocal_smallHost {base : String} {place : Place} (ha : Path.isAbsolute base = true)
    (hr : (smallHost place).read (Path.join base "config") = .ok (Text.utf8 smallText)) :
    IsLocal (smallHost place) base "config" (some "c") := by
  refine ⟨rfl, by decide, fun hk p hp => ?_⟩
  obtain ⟨k, hload, hpaths, -⟩ := load_smallHost (Path.isAbsolute_join ha) hr
  cases hload.symm.trans hk
  change p ∈ k.paths (some "c") at hp
  rw [hpaths, List.mem_singleton] at hp
  subst hp
  exact ⟨rfl, by decide, by decide⟩

/-- A directory with a long name, or a home directory that is not absolute, makes a difference. -/
theorem not_moved_tooLong :
    Twins (smallHost []).files (smallHost []).files "/" (dottedRoot 2046) [] [] ∧
    IsLocal (smallHost []) "/" "config" (some "c") ∧
    ¬ SameOutcome (optionsAt (smallHost []) .default (Path.join "/" "config") (some "c") none)
      (optionsAt (smallHost []) .default (Path.join (dottedRoot 2046) "config") (some "c") none) ∧
    Resolver.resolvePath { smallHost [] with home := some "me" } (some "/a") "~/t" ≠
      Resolver.resolvePath { smallHost [] with home := some "me" } (some "/b") "~/t" := by
  have hread : (smallHost []).read (Path.join "/" "config") = .ok (Text.utf8 smallText) := rfl
  have hparent : Path.parent? (Path.join "/" "config") = some "/" := by decide
  obtain ⟨k, hk, hpaths, hstrategy⟩ := load_smallHost rfl hread
  rw [hparent] at hk
  refine ⟨⟨leads_dottedRoot _ 0, leads_dottedRoot _ 2046, rfl⟩, isLocal_smallHost rfl hread, ?_,
    by decide⟩
  intro hsame
  have hnone := toOption_optionsAt_of_not_fits
    (Path.isAbsolute_join (leads_dottedRoot .empty 2046).absolute) not_fits_dottedRoot
    (smallHost []) .default (some "c") none
  obtain ⟨o, ho, -⟩ := Option.map_eq_some_iff.1 hstrategy
  rw [hsame.toOption_eq, optionsAt_of_load hk, ho] at hnone
  cases hnone

theorem relocatable_smallHost :
    SameOutcome (optionsAt (smallHost ["a"]) .default (Path.join "/a" "config") (some "c") none)
      (optionsAt (smallHost ["b", "c"]) .default (Path.join "/b/c" "config") (some "c") none) := by
  have hread : (smallHost ["a"]).read (Path.join "/a" "config") = .ok (Text.utf8 smallText) := rfl
  have hread' : (smallHost ["b", "c"]).read (Path.join "/b/c" "config") =
      .ok (Text.utf8 smallText) := rfl
  have twins : Twins (smallHost ["a"]).files (smallHost ["b", "c"]).files "/a" "/b/c" ["a"]
      ["b", "c"] := by
    refine ⟨⟨rfl, by decide, rfl⟩, ⟨rfl, by decide, rfl⟩, ?_⟩
    exact (below_smallHost _).trans (below_smallHost _).symm
  refine relocatable.moved twins (isLocal_smallHost rfl hread)
    ⟨iff_of_true (by decide) (by decide), fun hk hk' p hp => ?_⟩ _ _
  obtain ⟨k, hload, hpaths, -⟩ := load_smallHost rfl hread
  obtain ⟨k', hload', -, -⟩ := load_smallHost rfl hread'
  cases hload.symm.trans hk
  cases hload'.symm.trans hk'
  change p ∈ k.paths (some "c") at hp
  rw [hpaths, List.mem_singleton] at hp
  subst hp
  have hfits : Fits (Resolver.resolvePath (smallHost ["a"])
      (Path.parent? (Path.join "/a" "config")) "t") := by decide
  have hfits' : Fits (Resolver.resolvePath (smallHost ["b", "c"])
      (Path.parent? (Path.join "/b/c" "config")) "t") := by decide
  exact iff_of_true hfits' hfits

end Kubeconfig

end ClusterAccess
