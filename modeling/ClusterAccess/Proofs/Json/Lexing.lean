import ClusterAccess.Json.Printer
import Mathlib.Data.List.Forall2

namespace ClusterAccess.Json

/-- A character that no word and no number has. -/
def isDelimiter (c : Char) : Bool := !isLetter c && !isNumberChar c

variable {before ts us : List Token} {cs ds seen : List Char} {t : Token} {c : Char}

namespace Lexer

variable {l : Lexer}

theorem run_cons (l : Lexer) (c : Char) (cs : List Char) :
    l.run (c :: cs) = (l.step c).bind (run · cs) := rfl

theorem run_append (l : Lexer) (cs ds : List Char) :
    l.run (cs ++ ds) = (l.run cs).bind (run · ds) := List.foldlM_append

/-- The lexer gives the tokens at the end, and at a delimiter begins the next one after them. -/
structure HasFound (l : Lexer) (ts : List Token) : Prop where
  next : ∀ c, isDelimiter c = true → l.step c = begin ts c
  finish : l.finish = some ts.reverse

theorem hasFound_between (ts : List Token) : HasFound ⟨.between, ts⟩ ts := ⟨fun _ _ => rfl, rfl⟩

theorem hasFound_word (h : word? seen.reverse = some t) : HasFound ⟨.word seen, ts⟩ (t :: ts) where
  next c hc := by
    have hletter : isLetter c = false := by
      simp only [isDelimiter, Bool.and_eq_true, Bool.not_eq_true'] at hc
      exact hc.1
    simp only [step, hletter, h, Bool.false_eq_true, if_false]
    rfl
  finish := by
    simp only [Lexer.finish, h]
    rfl

theorem hasFound_number {n : NumberLiteral} (h : NumberLiteral.ofChars? seen.reverse = some n) :
    HasFound ⟨.number seen, ts⟩ (.number n :: ts) where
  next c hc := by
    have hnumber : isNumberChar c = false := by
      simp only [isDelimiter, Bool.and_eq_true, Bool.not_eq_true'] at hc
      exact hc.2
    simp only [step, hnumber, h, Bool.false_eq_true, if_false]
    rfl
  finish := by
    simp only [Lexer.finish, h]
    rfl

end Lexer

open Lexer (HasFound)

/-- A text that is read as tokens where one may begin. The last of them may go on. -/
def Spells (cs : List Char) (ts : List Token) : Prop :=
  ∀ before, ∃ l, (Lexer.mk .between before).run cs = some l ∧ HasFound l (ts.reverse ++ before)

def Closes (cs : List Char) (ts : List Token) : Prop :=
  ∀ before, (Lexer.mk .between before).run cs = some ⟨.between, ts.reverse ++ before⟩

/-- A text that does the same and begins with a delimiter, so that it ends what stands before it. -/
structure Divides (cs : List Char) (ts : List Token) : Prop where
  closes : Closes cs ts
  delimited : ∃ c ds, cs = c :: ds ∧ isDelimiter c = true

theorem Closes.spells (h : Closes cs ts) : Spells cs ts :=
  fun before => ⟨_, h before, Lexer.hasFound_between _⟩

theorem closes_nil : Closes [] [] := fun _ => rfl

theorem Closes.append (h : Closes cs ts) (h' : Closes ds us) : Closes (cs ++ ds) (ts ++ us) := by
  intro before
  rw [Lexer.run_append, h before, Option.bind_some, h' _, List.reverse_append, List.append_assoc]

theorem Closes.append_spells (h : Closes cs ts) (h' : Spells ds us) :
    Spells (cs ++ ds) (ts ++ us) := by
  intro before
  obtain ⟨l, hl, hf⟩ := h' (ts.reverse ++ before)
  refine ⟨l, ?_, ?_⟩
  · rw [Lexer.run_append, h before, Option.bind_some, hl]
  · rw [List.reverse_append, List.append_assoc]
    exact hf

theorem Spells.append_divides (h : Spells cs ts) (h' : Divides ds us) :
    Closes (cs ++ ds) (ts ++ us) := by
  intro before
  obtain ⟨l, hl, hf⟩ := h before
  obtain ⟨c, rest, rfl, hc⟩ := h'.delimited
  have hgo : l.run (c :: rest) = (Lexer.mk .between (ts.reverse ++ before)).run (c :: rest) := by
    rw [Lexer.run_cons, Lexer.run_cons, hf.next c hc]
    rfl
  rw [Lexer.run_append, hl, Option.bind_some, hgo, h'.closes, List.reverse_append,
    List.append_assoc]

theorem Divides.append_closes (h : Divides cs ts) (h' : Closes ds us) :
    Divides (cs ++ ds) (ts ++ us) where
  closes := h.closes.append h'
  delimited := by
    obtain ⟨c, rest, rfl, hc⟩ := h.delimited
    exact ⟨c, rest ++ ds, rfl, hc⟩

theorem scan_of_spells (h : Spells cs ts) : Token.scan cs = some ts := by
  obtain ⟨l, hl, hf⟩ := h []
  rw [Token.scan, hl, Option.bind_some, hf.finish, List.append_nil, List.reverse_reverse]

theorem closes_space (h : isSpace c = true) : Closes [c] [] := by
  intro before
  rw [Lexer.run_cons, Lexer.step, Lexer.begin, if_pos h]
  rfl

theorem closes_spaces (n : Nat) : Closes (List.replicate n ' ') [] := by
  induction n with
  | zero => exact closes_nil
  | succ n ih =>
    rw [List.replicate_succ]
    exact (closes_space (c := ' ') rfl).append ih

theorem divides_lineBreak (level : Nat) : Divides (lineBreak level) [] where
  closes := (closes_space (c := '\n') rfl).append (closes_spaces _)
  delimited := ⟨_, _, rfl, rfl⟩

theorem divides_punctuation (c : Char) (hc : isDelimiter c = true)
    (hp : ∀ ts, Lexer.begin ts c = some ⟨.between, t :: ts⟩) : Divides [c] [t] where
  closes before := by
    rw [Lexer.run_cons]
    change (Lexer.begin before c).bind _ = _
    rw [hp]
    rfl
  delimited := ⟨c, [], rfl, hc⟩

theorem divides_comma : Divides [','] [.comma] := divides_punctuation ',' rfl fun _ => rfl

theorem spells_separated {sep : List Char} {parts : List (List Char)} {rows : List (List Token)}
    (hsep : Divides sep us) (h : List.Forall₂ Spells parts rows) :
    Spells (separated sep parts) (us.intercalate rows) := by
  induction h with
  | nil => exact closes_nil.spells
  | @cons part row parts rows hpart hparts ih =>
    cases hparts with
    | nil =>
      rw [separated, List.intercalate_singleton, List.intercalate_singleton]
      exact hpart
    | cons =>
      rw [separated, List.intercalate_cons_cons, List.intercalate_cons_cons]
      exact (hpart.append_divides hsep).append_spells ih

theorem closes_enclosed {sep opening closing : List Char} {parts : List (List Char)}
    {rows : List (List Token)} {t' : Token} (ho : Closes opening [t]) (hsep : Divides sep us)
    (h : List.Forall₂ Spells parts rows) (hc : Divides closing [t']) :
    Closes (opening ++ separated sep parts ++ closing) (t :: us.intercalate rows ++ [t']) :=
  (ho.append_spells (spells_separated hsep h)).append_divides hc

end ClusterAccess.Json
