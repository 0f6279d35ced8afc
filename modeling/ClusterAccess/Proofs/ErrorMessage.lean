import ClusterAccess.Proofs.RefreshFailure
import ClusterAccess.Proofs.Text
import ClusterAccess.Proofs.Utf8

namespace ClusterAccess

open Text (IsClean isBlank isBlankText trim trimChars)

namespace Error

/-- An error at the bottom of so many failures to refresh. -/
def wrapped (e : Error) : Nat → Error
  | 0 => e
  | n + 1 => .refreshFailed (e.wrapped n)

structure EndsAs (command : String) (exitCode : Option Int) (timedOut : Bool) (status : String) :
    Prop where
  late : timedOut = true → status = "credential command '" ++ command ++ "' timed out"
  exited : timedOut = false → ∀ code, exitCode = some code →
    status = "credential command '" ++ command ++ "' exited with status " ++ toString code
  failed : timedOut = false → exitCode = none →
    status = "credential command '" ++ command ++ "' failed"

/-- Nothing of a blank text, and else at most 512 characters of what stands between its blanks. -/
inductive Excerpts (stderr : String) : String → Prop where
  | nothing (h : ∀ c ∈ stderr.toList, isBlank c = true) : Excerpts stderr ""
  | beginning {before after : List Char} {shown rest : String}
    (hs : stderr.toList = before ++ (shown ++ rest).toList ++ after)
    (hb : ∀ c ∈ before, isBlank c = true) (ha : ∀ c ∈ after, isBlank c = true)
    (hclean : IsClean (shown ++ rest)) (hlength : shown.length = min 512 (shown ++ rest).length) :
    Excerpts stderr (": " ++ shown)

variable {e : Error} {n : Nat} {command stderr text tail : String} {exitCode : Option Int}
  {timedOut : Bool}

theorem rootCause_wrapped (e : Error) (n : Nat) : (e.wrapped n).rootCause = e.rootCause := by
  induction n with
  | zero => rfl
  | succ n ih => exact ih

theorem IsPlain.rootCause_eq (h : e.IsPlain) : e.rootCause = e := by
  cases e with
  | refreshFailed cause => exact absurd rfl (h cause)
  | _ => rfl

theorem isPlain_rootCause (e : Error) : e.rootCause.IsPlain := by
  induction e with
  | refreshFailed cause ih => exact ih
  | _ => exact nofun

/-- Every error is its root cause at the bottom of some failures to refresh. -/
theorem exists_eq_wrapped (e : Error) : ∃ n, e = e.rootCause.wrapped n := by
  induction e with
  | refreshFailed cause ih =>
    obtain ⟨n, hn⟩ := ih
    exact ⟨n + 1, congrArg refreshFailed hn⟩
  | _ => exact ⟨0, rfl⟩

theorem message_wrapped (e : Error) (n : Nat) : (e.wrapped n).message =
    String.join (List.replicate n "failed to refresh credential: ") ++ e.message := by
  induction n with
  | zero => exact String.empty_append.symm
  | succ n ih =>
    have hcons : (e.wrapped (n + 1)).message =
        "failed to refresh credential: " ++ (e.wrapped n).message := rfl
    rw [hcons, ih, List.replicate_succ, String.join_cons, String.append_assoc]

theorem endsAs_commandStatus (command : String) (exitCode : Option Int) (timedOut : Bool) :
    EndsAs command exitCode timedOut (commandStatus command exitCode timedOut) where
  late h := by
    subst h
    exact String.append_assoc
  exited h code hc := by
    subst h hc
    have hnumeral : Text.decimalInt code = toString code := by
      cases code <;> rfl
    rw [← hnumeral]
    exact congrArg (· ++ Text.decimalInt code) String.append_assoc
  failed h hc := by
    subst h hc
    exact String.append_assoc

theorem EndsAs.unique (h : EndsAs command exitCode timedOut text)
    (h' : EndsAs command exitCode timedOut tail) : text = tail := by
  cases timedOut with
  | true => exact (h.late rfl).trans (h'.late rfl).symm
  | false =>
    cases exitCode with
    | some code => exact (h.exited rfl code rfl).trans (h'.exited rfl code rfl).symm
    | none => exact (h.failed rfl rfl).trans (h'.failed rfl rfl).symm

theorem take_excerptLength {shown rest : String}
    (h : shown.length = min 512 (shown ++ rest).length) :
    (shown ++ rest).toList.take excerptLength = shown.toList := by
  have hmax : excerptLength = 512 := rfl
  rw [← String.length_toList, ← String.length_toList, String.toList_append,
    List.length_append] at h
  rw [String.toList_append, List.take_append, List.take_of_length_le (by omega)]
  have hrest : rest.toList.take (excerptLength - shown.toList.length) = [] := by
    rw [List.take_eq_nil_iff, ← List.length_eq_zero_iff]
    omega
  rw [hrest, List.append_nil]

theorem excerpts_excerpt (stderr : String) : Excerpts stderr (excerpt stderr) := by
  rw [excerpt]
  split
  next hb => exact .nothing (List.all_eq_true.1 hb)
  next hb =>
    obtain ⟨before, after, hs, hbefore, hafter⟩ := Text.exists_around_trimChars stderr.toList
    have hsplit : String.ofList ((trimChars stderr.toList).take excerptLength) ++
        String.ofList ((trimChars stderr.toList).drop excerptLength) = trim stderr := by
      rw [← String.ofList_append, List.take_append_drop, trim]
    refine .beginning ?_ hbefore hafter (hsplit ▸ Text.isClean_trim (Bool.eq_false_iff.2 hb)) ?_
    · rw [hsplit, trim, String.toList_ofList]
      exact hs
    · rw [hsplit, trim, String.length_ofList, String.length_ofList, List.length_take]
      rfl

theorem Excerpts.eq (h : Excerpts stderr tail) : excerpt stderr = tail := by
  cases h with
  | nothing h => exact if_pos (List.all_eq_true.2 h)
  | @beginning before after shown rest hs hb ha hclean hlength =>
    have htrim : trimChars stderr.toList = (shown ++ rest).toList := by
      rw [hs, Text.trimChars_between hb ha, Text.trimChars_of_ends hclean.first hclean.last]
    have hblank : ¬ isBlankText stderr = true := by
      rw [isBlankText, ← Text.trimChars_eq_nil_iff, htrim, String.toList_eq_nil_iff]
      exact hclean.ne_empty
    rw [excerpt, if_neg hblank, htrim, take_excerptLength hlength, String.ofList_toList]

theorem message_commandFailed_eq_iff :
    (commandFailed command exitCode stderr timedOut).message = text ↔
      ∃ status tail, EndsAs command exitCode timedOut status ∧ Excerpts stderr tail ∧
        text = status ++ tail := by
  have hmessage : (commandFailed command exitCode stderr timedOut).message =
      commandStatus command exitCode timedOut ++ excerpt stderr := rfl
  rw [hmessage]
  constructor
  · rintro rfl
    exact ⟨_, _, endsAs_commandStatus _ _ _, excerpts_excerpt stderr, rfl⟩
  · rintro ⟨status, tail, hs, ht, rfl⟩
    rw [(endsAs_commandStatus command exitCode timedOut).unique hs, ht.eq]

theorem Excerpts.eq_empty_iff (h : Excerpts stderr tail) :
    tail = "" ↔ isBlankText stderr = true := by
  rw [← h.eq, excerpt]
  split
  next hb => simp [hb]
  next hb =>
    constructor
    · intro hempty
      simp [← String.toList_inj] at hempty
    · exact fun hb' => absurd hb' hb

/-- What is told of a text is cut between two of its characters: their bytes are told whole. -/
theorem Excerpts.bytes (h : Excerpts stderr tail) (hne : tail ≠ "") : ∃ shown rest : String,
    tail = ": " ++ shown ∧ shown.length ≤ 512 ∧
      Text.utf8 (trim stderr) = Text.utf8 shown ++ Text.utf8 rest := by
  cases h with
  | nothing => exact absurd rfl hne
  | @beginning before after shown rest hs hb ha hclean hlength =>
    refine ⟨shown, rest, rfl, by omega, ?_⟩
    rw [← Text.utf8_append, trim, hs, Text.trimChars_between hb ha,
      Text.trimChars_of_ends hclean.first hclean.last, String.ofList_toList]

/-- What is known of the words of errors. -/
structure Told : Prop where
  cause : ∀ (e : Error) (n : Nat), e.IsPlain → (e.wrapped n).rootCause = e ∧
    (e.wrapped n).message =
      String.join (List.replicate n "failed to refresh credential: ") ++ e.message
  depth : ∀ e : Error, e.rootCause.IsPlain ∧ ∃ n, e = e.rootCause.wrapped n
  command : ∀ command exitCode stderr timedOut text,
    (commandFailed command exitCode stderr timedOut).message = text ↔
      ∃ status tail, EndsAs command exitCode timedOut status ∧ Excerpts stderr tail ∧
        text = status ++ tail
  silent : ∀ stderr tail, Excerpts stderr tail → (tail = "" ↔ isBlankText stderr = true)
  whole : ∀ stderr tail, Excerpts stderr tail → tail ≠ "" → ∃ shown rest : String,
    tail = ": " ++ shown ∧ shown.length ≤ 512 ∧
      Text.utf8 (trim stderr) = Text.utf8 shown ++ Text.utf8 rest

theorem errors_told : Told where
  cause e n h := by
    refine ⟨?_, message_wrapped e n⟩
    rw [rootCause_wrapped, h.rootCause_eq]
  depth e := ⟨isPlain_rootCause e, exists_eq_wrapped e⟩
  command _ _ _ _ _ := message_commandFailed_eq_iff
  silent _ _ := Excerpts.eq_empty_iff
  whole _ _ := Excerpts.bytes

end Error

end ClusterAccess
