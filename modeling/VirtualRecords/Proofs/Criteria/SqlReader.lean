import Mathlib.Data.List.Chain
import VirtualRecords.Criteria.Sql

/-! Reading SQL text back, from left to right, without knowing how it was made. A quote opens a
literal; inside it two quotes are one character, and one alone closes it. Where no words
hold a quote and no two literals touch, the reader finds the fragments again. -/

namespace VirtualRecords

/-- Where a reader stands. After a quote inside a literal the next character decides whether
the literal is over. -/
inductive SqlPlace where
  | outside
  | inside (read : List Char)
  | atQuote (read : List Char)

structure SqlReader where
  place : SqlPlace
  outside : List Char
  literals : List String

namespace SqlReader

def start : SqlReader := ⟨.outside, [], []⟩

def step (reader : SqlReader) (c : Char) : SqlReader :=
  match reader.place with
  | .outside =>
    if c = '\'' then { reader with place := .inside [] }
    else { reader with outside := reader.outside ++ [c] }
  | .inside read => { reader with place := if c = '\'' then .atQuote read else .inside (read ++ [c]) }
  | .atQuote read =>
    if c = '\'' then { reader with place := .inside (read ++ ['\'']) }
    else ⟨.outside, reader.outside ++ [c], reader.literals ++ [String.ofList read]⟩

def finish (reader : SqlReader) : SqlReader :=
  match reader.place with
  | .atQuote read => ⟨.outside, reader.outside, reader.literals ++ [String.ofList read]⟩
  | _ => reader

def read (reader : SqlReader) (text : List Char) : SqlReader := text.foldl step reader

def ofText (text : String) : SqlReader := (start.read text.toList).finish

variable {reader : SqlReader} {outside text : List Char} {literals : List String}

theorem read_append (reader : SqlReader) (text rest : List Char) :
    reader.read (text ++ rest) = (reader.read text).read rest := List.foldl_append

theorem read_cons (reader : SqlReader) (c : Char) (rest : List Char) :
    reader.read (c :: rest) = (reader.step c).read rest := rfl

theorem step_finish {c : Char} (plain : c ≠ '\'')
    (done : reader.finish = ⟨.outside, outside, literals⟩) :
    reader.step c = ⟨.outside, outside ++ [c], literals⟩ := by
  obtain ⟨place, found, read⟩ := reader
  cases place with
  | outside =>
    cases done
    exact if_neg plain
  | inside read => cases done
  | atQuote read =>
    cases done
    exact if_neg plain

theorem read_plain (plain : '\'' ∉ text) :
    read ⟨.outside, outside, literals⟩ text = ⟨.outside, outside ++ text, literals⟩ := by
  induction text generalizing outside with
  | nil => rw [List.append_nil]; rfl
  | cons c rest ih =>
    rw [List.mem_cons, not_or] at plain
    rw [read_cons, step_finish (Ne.symm plain.1) rfl, ih plain.2, List.append_assoc]
    rfl

theorem read_words (plain : '\'' ∉ text) (done : reader.finish = ⟨.outside, outside, literals⟩)
    (parted : reader.place = .outside ∨ text ≠ []) :
    reader.read text = ⟨.outside, outside ++ text, literals⟩ := by
  cases text with
  | nil =>
    obtain ⟨place, found, before⟩ := reader
    cases parted.resolve_right (absurd rfl)
    rw [List.append_nil]
    exact done
  | cons c rest =>
    rw [List.mem_cons, not_or] at plain
    rw [read_cons, step_finish (Ne.symm plain.1) done, read_plain plain.2, List.append_assoc]
    rfl

theorem read_doubled (before : List Char) :
    read ⟨.inside before, outside, literals⟩ (text.flatMap SqlFragment.doubleQuote) =
      ⟨.inside (before ++ text), outside, literals⟩ := by
  induction text generalizing before with
  | nil => rw [List.append_nil]; rfl
  | cons c rest ih =>
    have one : read ⟨.inside before, outside, literals⟩ (SqlFragment.doubleQuote c) =
        ⟨.inside (before ++ [c]), outside, literals⟩ := by
      unfold SqlFragment.doubleQuote
      split
      · next quote => rw [quote]; rfl
      · next plain => simp [read, step, plain]
    rw [List.flatMap_cons, read_append, one, ih, List.append_assoc]
    rfl

theorem read_literal (text : String) :
    read ⟨.outside, outside, literals⟩ (SqlFragment.literal text).chars =
      ⟨.atQuote text.toList, outside, literals⟩ := by
  rw [SqlFragment.chars, List.cons_append, read_cons, read_append]
  change (read ⟨.inside [], outside, literals⟩ _).read _ = _
  rw [read_doubled]
  rfl

end SqlReader

namespace SqlFragment

def Parts : SqlFragment → Prop
  | words text => text.toList ≠ []
  | literal _ => False

def Before : SqlFragment → SqlFragment → Prop
  | words _, _ => True
  | literal _, next => next.Parts

end SqlFragment

namespace Sql

variable {sql rest : Sql} {text : String}

def outside : Sql → List Char
  | [] => []
  | .words text :: rest => text.toList ++ outside rest
  | .literal _ :: rest => outside rest

def literals : Sql → List String
  | [] => []
  | .words _ :: rest => literals rest
  | .literal text :: rest => text :: literals rest

@[simp] theorem outside_append (sql rest : Sql) :
    outside (sql ++ rest) = outside sql ++ outside rest := by
  fun_induction outside sql with
  | case1 => rfl
  | case2 text more ih => rw [List.cons_append, outside, ih, List.append_assoc]
  | case3 text more ih => rw [List.cons_append, outside, ih]

@[simp] theorem literals_append (sql rest : Sql) :
    literals (sql ++ rest) = literals sql ++ literals rest := by
  fun_induction literals sql with
  | case1 => rfl
  | case2 text more ih => rw [List.cons_append, literals, ih]
  | case3 text more ih => rw [List.cons_append, literals, ih, List.cons_append]

/-- The text of fragments shows where each of them begins and ends. -/
structure Sound (sql : Sql) : Prop where
  plain : ∀ text, .words text ∈ sql → '\'' ∉ text.toList
  chain : sql.IsChain SqlFragment.Before

theorem Sound.tail {fragment : SqlFragment} (sound : Sound (fragment :: rest)) : Sound rest where
  plain text member := sound.plain text (List.mem_cons_of_mem _ member)
  chain := (List.isChain_cons.1 sound.chain).2

def Begins (sql : Sql) : Prop := ∀ first ∈ sql.head?, first.Parts

theorem begins_words (parts : text.toList ≠ []) (rest : Sql) : Begins (.words text :: rest) := by
  rintro _ ⟨⟩
  exact parts

theorem read_sound {reader : SqlReader} {found : List Char} {before : List String}
    (sound : sql.Sound) (done : reader.finish = ⟨.outside, found, before⟩)
    (parted : reader.place = .outside ∨ sql.Begins) :
    (reader.read (sql.flatMap SqlFragment.chars)).finish =
      ⟨.outside, found ++ sql.outside, before ++ sql.literals⟩ := by
  induction sql generalizing reader found before with
  | nil =>
    rw [outside, literals, List.append_nil, List.append_nil]
    exact done
  | cons fragment rest ih =>
    rw [List.flatMap_cons, SqlReader.read_append]
    cases fragment with
    | words text =>
      have plain := sound.plain text List.mem_cons_self
      have read := SqlReader.read_words plain done (parted.imp_right fun next => next _ rfl)
      rw [SqlFragment.chars, read, ih sound.tail rfl (.inl rfl), outside, literals,
        List.append_assoc]
    | literal text =>
      have out : reader = ⟨.outside, found, before⟩ := by
        obtain ⟨place, _, _⟩ := reader
        cases parted.resolve_right fun next => next _ rfl
        exact done
      have parts := (List.isChain_cons.1 sound.chain).1
      have closed : SqlReader.finish ⟨.atQuote text.toList, found, before⟩ =
          ⟨.outside, found, before ++ [text]⟩ := by
        simp [SqlReader.finish]
      rw [out, SqlReader.read_literal, ih sound.tail closed (.inr parts), outside, literals,
        List.append_assoc]
      rfl

theorem ofText_text (sound : sql.Sound) :
    SqlReader.ofText sql.text = ⟨.outside, sql.outside, sql.literals⟩ := by
  have fresh : SqlReader.start.finish = ⟨.outside, [], []⟩ := rfl
  rw [SqlReader.ofText, text, String.toList_ofList]
  exact read_sound sound fresh (.inl rfl)

theorem Sound.append (sound : sql.Sound) (later : rest.Sound) (begins : rest.Begins) :
    (sql ++ rest).Sound where
  plain text member := (List.mem_append.1 member).elim (sound.plain text) (later.plain text)
  chain := by
    refine List.isChain_append.2 ⟨sound.chain, later.chain, fun last _ next first => ?_⟩
    cases last with
    | words _ => trivial
    | literal _ => exact begins next first

theorem Sound.words_cons (plain : '\'' ∉ text.toList) (later : rest.Sound) :
    Sound (.words text :: rest) where
  plain other member := by
    rcases List.mem_cons.1 member with same | member
    · cases same
      exact plain
    · exact later.plain other member
  chain := List.isChain_cons.2 ⟨fun _ _ => trivial, later.chain⟩

theorem sound_nil : Sound [] where
  plain _ := nofun
  chain := .nil

theorem sound_literal (text : String) : Sound [.literal text] where
  plain other member := by cases List.mem_singleton.1 member
  chain := .singleton _

variable {words : String} {list : List Sql}

theorem sound_separated (plain : '\'' ∉ words.toList) (parts : words.toList ≠ [])
    (each : ∀ sql ∈ list, sql.Sound) : (separated words list).Sound := by
  fun_induction separated words list with
  | case1 => exact sound_nil
  | case2 sql => exact each sql List.mem_cons_self
  | case3 sql next rest ih =>
    have later := ih fun other member => each other (List.mem_cons_of_mem _ member)
    exact (each sql List.mem_cons_self).append (later.words_cons plain) (begins_words parts _)

theorem literals_separated (words : String) (list : List Sql) :
    (separated words list).literals = list.flatMap literals := by
  fun_induction separated words list with
  | case1 => rfl
  | case2 sql => simp
  | case3 sql next rest ih =>
    rw [literals_append, literals, ih]
    rfl

theorem outside_separated (words : String) (list : List Sql) :
    (separated words list).outside = words.toList.intercalate (list.map outside) := by
  fun_induction separated words list with
  | case1 => rfl
  | case2 sql => simp [List.intercalate]
  | case3 sql next rest ih =>
    rw [outside_append, outside, ih, List.map_cons, List.map_cons]
    simp [List.intercalate]

end Sql
end VirtualRecords
