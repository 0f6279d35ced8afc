import ClusterAccess.Pod
import ClusterAccess.Proofs.Except
import ClusterAccess.Proofs.Url

namespace ClusterAccess.Pod

open Text (isBlank Missing)

/-- A variable is set to a row of characters, with blanks around it. -/
def Holds (s : Option String) (cs : List Char) : Prop :=
  ∃ before after, (∀ c ∈ before, isBlank c = true) ∧ (∀ c ∈ after, isBlank c = true) ∧
    s = some (String.ofList (before ++ cs ++ after))

variable {p : Pod} {s : Option String} {cs ds : List Char} {c : Char} {n : Nat}

theorem given?_of_holds (h : Holds s cs) (hne : cs ≠ []) (hcs : ∀ c ∈ cs, isBlank c = false) :
    given? s = some (String.ofList cs) := by
  obtain ⟨before, after, hbefore, hafter, rfl⟩ := h
  have htrim : Text.trim (String.ofList (before ++ cs ++ after)) = String.ofList cs := by
    rw [Text.trim, String.toList_ofList, Text.trimChars_between hbefore hafter,
      Text.trimChars_of_no_blank hcs]
  have hgiven : Text.Given (some (String.ofList (before ++ cs ++ after)))
      (String.ofList (before ++ cs ++ after)) := by
    refine ⟨rfl, ?_⟩
    rw [htrim, Ne, String.ofList_eq_empty_iff]
    exact hne
  rw [given?, Text.nonBlank?_eq_some_iff.2 hgiven, Option.map_some, htrim]

theorem isBlank_of_isAddressChar (h : Ipv6.IsAddressChar c) : isBlank c = false := by
  have hall := h.of_all (p := fun c => !isBlank c) (by decide)
  simpa using hall

theorem given?_port (h : Holds s ds) (hport : SpellsPort ds n) :
    given? s = some (String.ofList ds) :=
  given?_of_holds h hport.ne_nil fun c hc => Text.not_isBlank_of_isDigit (hport.digits c hc)

theorem endpoint_eq_ok {u : Url} (hhost : Holds p.host cs) (hne : cs ≠ [])
    (hcs : ∀ c ∈ cs, isBlank c = false) (hp : Holds p.port ds) (hport : SpellsPort ds n)
    (hparse : Url.parse (endpointText (String.ofList cs) (String.ofList ds)) = .ok u) :
    p.endpoint = .ok u := by
  rw [endpoint, given?_of_holds hhost hne hcs, given?_port hp hport]
  simp only [hparse]
  rfl

theorem endpointText_eq (cs ds : List Char) :
    endpointText (String.ofList cs) (String.ofList ds) = String.ofList ("https://".toList ++
      (if (Ipv6.parse? cs).isSome then '[' :: cs ++ [']'] else cs) ++ ':' :: ds) := by
  rw [← String.toList_inj]
  simp only [endpointText, String.toList_append, String.toList_ofList]
  split <;> simp

theorem parse?_bracketed (cs : List Char) : Ipv6.parse? ('[' :: cs ++ [']']) = none := by
  rw [Option.eq_none_iff_forall_not_mem]
  intro a h
  have hmem := ((Ipv6.parse?_eq_some_iff.1 h).isAddressChar List.mem_cons_self).mem
  revert hmem
  decide

/-- An address names the host of an endpoint in any spelling, whether in brackets or not. -/
theorem endpoint_ipv6 {a : Ipv6} (h : Ipv6.Spells cs a)
    (hhost : Holds p.host cs ∨ Holds p.host ('[' :: cs ++ [']'])) (hp : Holds p.port ds)
    (hport : SpellsPort ds n) : p.endpoint = .ok (Url.secure (.ipv6 a) n) := by
  have hblank : ∀ c ∈ cs, isBlank c = false :=
    fun c hc => isBlank_of_isAddressChar (h.isAddressChar hc)
  have hparse := Url.parse_bracketed h hport
  rcases hhost with hhost | hhost
  · apply endpoint_eq_ok hhost (List.ne_nil_of_mem h.colon_mem) hblank hp hport
    rwa [endpointText_eq, Ipv6.parse?_eq_some_iff.2 h, Option.isSome_some, if_pos rfl]
  · apply endpoint_eq_ok hhost (List.cons_ne_nil _ _) _ hp hport
    · rwa [endpointText_eq, parse?_bracketed, Option.isSome_none, if_neg Bool.false_ne_true]
    · intro c hc
      rw [List.cons_append, List.mem_cons, List.mem_append, List.mem_singleton] at hc
      rcases hc with rfl | hc | rfl
      · rfl
      · exact hblank c hc
      · rfl

theorem endpoint_ipv4 {a b c d : Nat} (ha : a < 256) (hb : b < 256) (hc : c < 256) (hd : d < 256)
    (hhost : Holds p.host (Ipv6.dottedChars a b c d)) (hp : Holds p.port ds)
    (hport : SpellsPort ds n) : p.endpoint =
      .ok (Url.secure (.ipv4 ⟨UInt32.ofNat (((a * 256 + b) * 256 + c) * 256 + d)⟩) n) := by
  apply endpoint_eq_ok hhost (List.ne_nil_of_mem (Ipv6.dot_mem_dottedChars a b c d)) _ hp hport
  · rw [endpointText_eq, Ipv6.parse?_dottedChars, Option.isSome_none, if_neg Bool.false_ne_true]
    exact Url.parse_dotted ha hb hc hd hport
  · exact fun c hc => isBlank_of_isAddressChar (Ipv6.isAddressChar_of_mem_dottedChars hc)

theorem given?_eq_none_iff : given? s = none ↔ Missing s := by
  rw [given?, Option.map_eq_none_iff, Text.nonBlank?_eq_none_iff]

theorem isInCluster_eq_false_iff : p.isInCluster = false ↔ Missing p.host ∨ Missing p.port := by
  rw [isInCluster, Bool.and_eq_false_iff, Option.isSome_eq_false_iff, Option.isSome_eq_false_iff,
    Option.isNone_iff_eq_none, Option.isNone_iff_eq_none, given?_eq_none_iff, given?_eq_none_iff]

theorem endpoint_unavailable_iff :
    (∃ reason, p.endpoint = .error (.noServiceAccount reason)) ↔ p.isInCluster = false := by
  rw [endpoint, isInCluster]
  cases hhost : given? p.host with
  | none => simp
  | some host =>
    cases hport : given? p.port with
    | none => simp
    | some port =>
      simp only [Except.mapError_eq_error_iff, Option.isSome_some, Bool.and_self]
      refine iff_of_false ?_ (by decide)
      rintro ⟨reason, e, -, he⟩
      cases he

/-- What the endpoint within a cluster names. -/
structure NamesAddress : Prop where
  spelled : ∀ (cs : List Char) (a : Ipv6), Ipv6.parse? cs = some a ↔ Ipv6.Spells cs a
  canonical : ∀ a : Ipv6, Ipv6.Spells a.text.toList a
  ipv6 : ∀ (p : Pod) (cs ds : List Char) (a : Ipv6) (n : Nat), Ipv6.Spells cs a →
    Holds p.host cs ∨ Holds p.host ('[' :: cs ++ [']']) → Holds p.port ds → SpellsPort ds n →
    p.endpoint = .ok (Url.secure (.ipv6 a) n)
  ipv4 : ∀ (p : Pod) (a b c d : Nat) (ds : List Char) (n : Nat), a < 256 → b < 256 → c < 256 →
    d < 256 → Holds p.host (Ipv6.dottedChars a b c d) → Holds p.port ds → SpellsPort ds n →
    p.endpoint = .ok (Url.secure (.ipv4 ⟨UInt32.ofNat (((a * 256 + b) * 256 + c) * 256 + d)⟩) n)
  spellings : ∀ (p p' : Pod) (cs cs' ds ds' : List Char) (a : Ipv6) (n : Nat), Ipv6.Spells cs a →
    Ipv6.Spells cs' a → Holds p.host cs → Holds p'.host cs' → Holds p.port ds → Holds p'.port ds' →
    SpellsPort ds n → SpellsPort ds' n → p.endpoint = p'.endpoint
  unavailable : ∀ p : Pod,
    (∃ reason, p.endpoint = .error (.noServiceAccount reason)) ↔ p.isInCluster = false
  missing : ∀ p : Pod, p.isInCluster = false ↔ Missing p.host ∨ Missing p.port

theorem endpoint_names_address : NamesAddress where
  spelled _ _ := Ipv6.parse?_eq_some_iff
  canonical := Ipv6.spells_text
  ipv6 _ _ _ _ _ := endpoint_ipv6
  ipv4 _ _ _ _ _ _ _ := endpoint_ipv4
  spellings _ _ _ _ _ _ _ _ h h' hhost hhost' hp hp' hport hport' := by
    rw [endpoint_ipv6 h (.inl hhost) hp hport, endpoint_ipv6 h' (.inl hhost') hp' hport']
  unavailable _ := endpoint_unavailable_iff
  missing _ := isInCluster_eq_false_iff

end ClusterAccess.Pod
