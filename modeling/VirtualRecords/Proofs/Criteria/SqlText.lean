import VirtualRecords.Plan
import VirtualRecords.Proofs.Criteria.SqlReader
import VirtualRecords.Proofs.Number.Text

/-! What stands in the SQL text of criteria and of plans. The literals that a reader finds in it
are the texts of the tree in their order, and the words around them do not depend on
these texts, so no text can pass for words. -/

namespace VirtualRecords

namespace Json

def sqlTexts : Json → List String
  | null | bool _ | number _ => []
  | string s => [s]
  | array items => [(array items).text]
  | object members => [(object members).text]

def withoutTexts : Json → Json
  | string _ | array _ | object _ => string ""
  | other => other

end Json

namespace FieldPath

def withoutTexts (path : FieldPath) : FieldPath := ⟨path.keys.map fun _ => ""⟩

end FieldPath

namespace Test

def texts : Test → List String
  | compare _ value => value.sqlTexts
  | like pattern => [pattern]
  | contains value => [(Json.array [value]).text]
  | isIn values | notIn values => values.flatMap Json.sqlTexts
  | isNull | isNotNull => []

def withoutTexts : Test → Test
  | compare relation value => compare relation value.withoutTexts
  | like _ => like ""
  | contains _ => contains .null
  | isIn values => isIn (values.map Json.withoutTexts)
  | notIn values => notIn (values.map Json.withoutTexts)
  | other => other

end Test

namespace Criteria

mutual

def texts : Criteria → List String
  | all => []
  | entity id => [id.text]
  | field path test => path.keys ++ test.texts
  | and parts => listTexts parts
  | or parts => listTexts parts

def listTexts : List Criteria → List String
  | [] => []
  | part :: rest => texts part ++ listTexts rest

end

mutual

def withoutTexts : Criteria → Criteria
  | all => all
  | entity _ => entity .nil
  | field path test => field path.withoutTexts test.withoutTexts
  | and parts => and (listWithoutTexts parts)
  | or parts => or (listWithoutTexts parts)

def listWithoutTexts : List Criteria → List Criteria
  | [] => []
  | part :: rest => withoutTexts part :: listWithoutTexts rest

end

end Criteria

namespace Plan

def texts (plan : Plan) : List String :=
  plan.criteria.texts ++ (plan.order?.map fun order => order.path.keys).getD []

def withoutTexts (plan : Plan) : Plan where
  criteria := plan.criteria.withoutTexts
  order? := plan.order?.map fun order => { order with path := order.path.withoutTexts }
  window := plan.window

end Plan

namespace Json

theorem sound_sql (value : Json) : value.sql.Sound := by
  cases value with
  | null => exact Sql.sound_nil.words_cons (by decide)
  | bool b => cases b <;> exact Sql.sound_nil.words_cons (by decide)
  | number n =>
    exact Sql.sound_nil.words_cons (n.isNumberText_text.not_mem_of_not_isNumberChar rfl)
  | string s => exact Sql.sound_literal s
  | array items => exact Sql.sound_literal _
  | object members => exact Sql.sound_literal _

theorem literals_sql (value : Json) : value.sql.literals = value.sqlTexts := by
  cases value <;> rfl

theorem outside_sql (value : Json) : value.withoutTexts.sql.outside = value.sql.outside := by
  cases value <;> rfl

end Json

namespace FieldPath

theorem begins_keys (keys : List String) : Sql.Begins (keys.flatMap keySql) := by
  cases keys with
  | nil => exact nofun
  | cons key rest => exact Sql.begins_words (by decide) _

theorem sound_sql (path : FieldPath) : path.sql.Sound := by
  refine .words_cons (by decide) ?_
  induction path.keys with
  | nil => exact Sql.sound_nil
  | cons key rest ih =>
    exact ((Sql.sound_literal key).words_cons (by decide)).append ih (begins_keys rest)

theorem literals_sql (path : FieldPath) : path.sql.literals = path.keys := by
  rw [sql, Sql.literals]
  induction path.keys with
  | nil => rfl
  | cons key rest ih =>
    rw [List.flatMap_cons, Sql.literals_append, ih]
    rfl

theorem outside_sql (path : FieldPath) : path.withoutTexts.sql.outside = path.sql.outside := by
  rw [sql, sql, Sql.outside, Sql.outside, withoutTexts]
  congr 1
  dsimp only
  induction path.keys with
  | nil => rfl
  | cons key rest ih =>
    rw [List.map_cons, List.flatMap_cons, List.flatMap_cons, Sql.outside_append, Sql.outside_append,
      ih]
    rfl

end FieldPath

namespace Test

theorem begins_sql (test : Test) : test.sql.Begins := by
  cases test with
  | compare relation value => cases relation <;> exact Sql.begins_words (by decide) _
  | _ => exact Sql.begins_words (by decide) _

theorem sound_listSql (values : List Json) : (listSql values).Sound := by
  refine Sql.sound_separated (by decide) (by decide) fun sql member => ?_
  obtain ⟨value, -, rfl⟩ := List.mem_map.1 member
  exact value.sound_sql

theorem sound_sql (test : Test) : test.sql.Sound := by
  have closing : Sql.Sound [.words ")"] := Sql.sound_nil.words_cons (by decide)
  have listed (values : List Json) : Sql.Sound (listSql values ++ [.words ")"]) :=
    (sound_listSql values).append closing (Sql.begins_words (by decide) _)
  cases test with
  | compare relation value => cases relation <;> exact value.sound_sql.words_cons (by decide)
  | like pattern => exact (Sql.sound_literal pattern).words_cons (by decide)
  | contains value => exact (Sql.sound_literal _).words_cons (by decide)
  | isIn values => exact (listed values).words_cons (by decide)
  | notIn values => exact (listed values).words_cons (by decide)
  | isNull => exact Sql.sound_nil.words_cons (by decide)
  | isNotNull => exact Sql.sound_nil.words_cons (by decide)

theorem literals_listSql (values : List Json) :
    (listSql values).literals = values.flatMap Json.sqlTexts := by
  rw [listSql, Sql.literals_separated, List.flatMap_map]
  exact List.flatMap_congr fun value _ => value.literals_sql

theorem literals_sql (test : Test) : test.sql.literals = test.texts := by
  have closed (values : List Json) :
      (listSql values ++ [SqlFragment.words ")"]).literals = values.flatMap Json.sqlTexts := by
    rw [Sql.literals_append, literals_listSql]
    exact List.append_nil _
  cases test with
  | compare relation value => exact value.literals_sql
  | isIn values => exact closed values
  | notIn values => exact closed values
  | _ => rfl

theorem outside_listSql (values : List Json) :
    (listSql (values.map Json.withoutTexts)).outside = (listSql values).outside := by
  rw [listSql, listSql, Sql.outside_separated, Sql.outside_separated, List.map_map, List.map_map,
    List.map_map]
  congr 1
  exact List.map_congr_left fun value _ => value.outside_sql

theorem outside_sql (test : Test) : test.withoutTexts.sql.outside = test.sql.outside := by
  cases test with
  | compare relation value =>
    rw [withoutTexts, sql, sql, Sql.outside, Sql.outside, value.outside_sql]
  | isIn values =>
    rw [withoutTexts, sql, sql, List.cons_append, List.cons_append, Sql.outside, Sql.outside,
      Sql.outside_append, Sql.outside_append, outside_listSql]
  | notIn values =>
    rw [withoutTexts, sql, sql, List.cons_append, List.cons_append, Sql.outside, Sql.outside,
      Sql.outside_append, Sql.outside_append, outside_listSql]
  | _ => rfl

end Test

namespace Criteria

/-- Induction on criteria, where a group comes after all of its parts. -/
theorem parts_induction {motive : Criteria → Prop} (all : motive all)
    (entity : ∀ id, motive (entity id)) (field : ∀ path test, motive (field path test))
    (and : ∀ parts, (∀ part ∈ parts, motive part) → motive (and parts))
    (or : ∀ parts, (∀ part ∈ parts, motive part) → motive (or parts)) :
    ∀ criteria, motive criteria
  | .all => all
  | .entity id => entity id
  | .field path test => field path test
  | .and parts => and parts fun part _ => parts_induction all entity field and or part
  | .or parts => or parts fun part _ => parts_induction all entity field and or part

theorem joinedSql_eq_separated (words : String) (parts : List Criteria) :
    joinedSql words parts = Sql.separated words (parts.map sql) := by
  induction parts with
  | nil => rfl
  | cons part rest ih =>
    cases rest with
    | nil => rfl
    | cons next rest => rw [joinedSql, ih]; rfl

theorem listTexts_eq_flatMap (parts : List Criteria) : listTexts parts = parts.flatMap texts := by
  induction parts with
  | nil => rfl
  | cons part rest ih => rw [listTexts, ih]; rfl

theorem listWithoutTexts_eq_map (parts : List Criteria) :
    listWithoutTexts parts = parts.map withoutTexts := by
  induction parts with
  | nil => rfl
  | cons part rest ih => rw [listWithoutTexts, ih]; rfl

variable {words : String} {parts : List Criteria}

theorem sound_group (plain : '\'' ∉ words.toList) (nonempty : words.toList ≠ [])
    (each : ∀ part ∈ parts, part.sql.Sound) :
    Sql.Sound (.words "(" :: joinedSql words parts ++ [.words ")"]) := by
  have closing : Sql.Sound [.words ")"] := Sql.sound_nil.words_cons (by decide)
  have joined : (joinedSql words parts).Sound := by
    rw [joinedSql_eq_separated]
    exact Sql.sound_separated plain nonempty (List.forall_mem_map.2 each)
  exact (joined.words_cons (by decide)).append closing (Sql.begins_words (by decide) _)

theorem sound_sql (criteria : Criteria) : criteria.sql.Sound := by
  induction criteria using parts_induction with
  | all => exact Sql.sound_nil.words_cons (by decide)
  | entity id => exact (Sql.sound_literal id.text).words_cons (by decide)
  | field path test => exact path.sound_sql.append test.sound_sql test.begins_sql
  | and parts ih =>
    cases parts with
    | nil => exact Sql.sound_nil.words_cons (by decide)
    | cons part rest => exact sound_group (by decide) (by decide) ih
  | or parts ih =>
    cases parts with
    | nil => exact Sql.sound_nil.words_cons (by decide)
    | cons part rest => exact sound_group (by decide) (by decide) ih

theorem literals_group (words : String) (each : ∀ part ∈ parts, part.sql.literals = part.texts) :
    Sql.literals (.words "(" :: joinedSql words parts ++ [.words ")"]) = listTexts parts := by
  rw [List.cons_append, Sql.literals, Sql.literals_append, joinedSql_eq_separated,
    Sql.literals_separated, List.flatMap_map, listTexts_eq_flatMap, List.flatMap_congr each]
  exact List.append_nil _

theorem literals_sql (criteria : Criteria) : criteria.sql.literals = criteria.texts := by
  induction criteria using parts_induction with
  | all => rfl
  | entity id => rfl
  | field path test =>
    rw [sql, Sql.literals_append, path.literals_sql, test.literals_sql, texts]
  | and parts ih =>
    cases parts with
    | nil => rfl
    | cons part rest => exact literals_group " AND " ih
  | or parts ih =>
    cases parts with
    | nil => rfl
    | cons part rest => exact literals_group " OR " ih

theorem outside_group (words : String)
    (each : ∀ part ∈ parts, part.withoutTexts.sql.outside = part.sql.outside) :
    Sql.outside (.words "(" :: joinedSql words (listWithoutTexts parts) ++ [.words ")"]) =
      Sql.outside (.words "(" :: joinedSql words parts ++ [.words ")"]) := by
  rw [List.cons_append, List.cons_append, Sql.outside, Sql.outside, Sql.outside_append,
    Sql.outside_append, joinedSql_eq_separated, joinedSql_eq_separated, Sql.outside_separated,
    Sql.outside_separated, listWithoutTexts_eq_map, List.map_map, List.map_map, List.map_map]
  congr 3
  exact List.map_congr_left each

theorem outside_sql (criteria : Criteria) :
    criteria.withoutTexts.sql.outside = criteria.sql.outside := by
  induction criteria using parts_induction with
  | all => rfl
  | entity id => simp only [withoutTexts, sql, Sql.outside]
  | field path test =>
    rw [withoutTexts, sql, sql, Sql.outside_append, Sql.outside_append, path.outside_sql,
      test.outside_sql]
  | and parts ih =>
    cases parts with
    | nil => rfl
    | cons part rest => exact outside_group " AND " ih
  | or parts ih =>
    cases parts with
    | nil => rfl
    | cons part rest => exact outside_group " OR " ih

end Criteria

namespace Plan

theorem sound_orderSql (order : FieldOrder) : (orderSql order).Sound := by
  have direction : Sql.Sound [.words (" " ++ order.direction.name)] := by
    cases order.direction <;> exact Sql.sound_nil.words_cons (by decide)
  refine (order.path.sound_sql.words_cons (by decide)).append direction ?_
  cases order.direction <;> exact Sql.begins_words (by decide) _

theorem literals_orderSql (order : FieldOrder) : (orderSql order).literals = order.path.keys := by
  rw [orderSql, List.cons_append, Sql.literals, Sql.literals_append, order.path.literals_sql]
  exact List.append_nil _

theorem outside_orderSql (order : FieldOrder) :
    (orderSql { order with path := order.path.withoutTexts }).outside = (orderSql order).outside := by
  rw [orderSql, orderSql, List.cons_append, List.cons_append, Sql.outside, Sql.outside,
    Sql.outside_append, Sql.outside_append, order.path.outside_sql]

theorem plain_windowText (window : Window) : '\'' ∉ (windowText window).toList := by
  have limit := (isNumberText_natText window.limit).not_mem_of_not_isNumberChar (c := '\'') rfl
  have offset := (isNumberText_natText window.offset).not_mem_of_not_isNumberChar (c := '\'') rfl
  simp only [windowText, String.toList_append, List.mem_append, limit, offset, or_false]
  decide

theorem windowText_ne_nil (window : Window) : (windowText window).toList ≠ [] := by
  simp [windowText]

theorem sound_sql (plan : Plan) : plan.sql.Sound := by
  have front : Sql.Sound (.words "WHERE " :: plan.criteria.sql) :=
    plan.criteria.sound_sql.words_cons (by decide)
  have window : Sql.Sound [.words (windowText plan.window)] :=
    Sql.sound_nil.words_cons (plain_windowText plan.window)
  have begins : Sql.Begins [.words (windowText plan.window)] :=
    Sql.begins_words (windowText_ne_nil plan.window) _
  rw [sql]
  cases plan.order? with
  | none => exact (front.append Sql.sound_nil nofun).append window begins
  | some order =>
    have ordered := front.append (sound_orderSql order) (Sql.begins_words (by decide) _)
    exact ordered.append window begins

theorem literals_sql (plan : Plan) : plan.sql.literals = plan.texts := by
  rw [sql, List.cons_append, List.cons_append, Sql.literals, Sql.literals_append,
    Sql.literals_append, plan.criteria.literals_sql, texts]
  cases plan.order? with
  | none => exact List.append_nil _
  | some order =>
    rw [Option.map_some, Option.getD_some, literals_orderSql]
    exact List.append_nil _

theorem outside_sql (plan : Plan) : plan.withoutTexts.sql.outside = plan.sql.outside := by
  obtain ⟨criteria, order?, window⟩ := plan
  rw [withoutTexts, sql, sql, List.cons_append, List.cons_append, List.cons_append,
    List.cons_append, Sql.outside, Sql.outside, Sql.outside_append, Sql.outside_append,
    Sql.outside_append, Sql.outside_append, criteria.outside_sql]
  cases order? with
  | none => rfl
  | some order =>
    rw [Option.map_some, Option.map_some, Option.map_some, Option.getD_some, Option.getD_some,
      outside_orderSql]

end Plan

/-- A way of writing things as SQL text that no text inside of them can break out of: reading
ends outside of every literal, the literals are the texts, and the words around them are
the same for things that differ only in their texts. -/
structure ReadsBack {α : Type} (text : α → String) (texts : α → List String)
    (withoutTexts : α → α) : Prop where
  closed (a : α) : (SqlReader.ofText (text a)).place = .outside
  literals (a : α) : (SqlReader.ofText (text a)).literals = texts a
  outside (a b : α) : withoutTexts a = withoutTexts b →
    (SqlReader.ofText (text a)).outside = (SqlReader.ofText (text b)).outside

theorem ReadsBack.ofSql {α : Type} {sql : α → Sql} {texts : α → List String}
    {withoutTexts : α → α} (sound : ∀ a, (sql a).Sound)
    (literals : ∀ a, (sql a).literals = texts a)
    (outside : ∀ a, (sql (withoutTexts a)).outside = (sql a).outside) :
    ReadsBack (fun a => (sql a).text) texts withoutTexts where
  closed a := by rw [Sql.ofText_text (sound a)]
  literals a := by rw [Sql.ofText_text (sound a), literals a]
  outside a b same := by
    rw [Sql.ofText_text (sound a), Sql.ofText_text (sound b)]
    calc
      (sql a).outside = (sql (withoutTexts a)).outside := (outside a).symm
      _ = (sql (withoutTexts b)).outside := by rw [same]
      _ = (sql b).outside := outside b

theorem sqlText_readsBack :
    ReadsBack Criteria.text Criteria.texts Criteria.withoutTexts ∧
      ReadsBack Plan.text Plan.texts Plan.withoutTexts :=
  ⟨.ofSql Criteria.sound_sql Criteria.literals_sql Criteria.outside_sql,
    .ofSql Plan.sound_sql Plan.literals_sql Plan.outside_sql⟩

theorem sqlText_readsBack_quotes :
    let criteria (key pattern item : String) : Criteria := .and [
      .entity .nil, .field ⟨[key, "k"]⟩ (.like pattern), .field ⟨["k"]⟩ (.isIn [.string item, .null])]
    let plan (key pattern item : String) : Plan :=
      ⟨criteria key pattern item, some ⟨⟨[key]⟩, .descending⟩, ⟨0, 20⟩⟩
    let quoted := plan "'" "%''" "' OR 'a'='a"
    (SqlReader.ofText quoted.text).place = .outside ∧
      (SqlReader.ofText quoted.text).literals =
        [Identifier.nil.text, "'", "k", "%''", "k", "' OR 'a'='a", "'"] ∧
      (SqlReader.ofText quoted.text).outside = (SqlReader.ofText (plan "a" "b" "c").text).outside :=
  ⟨sqlText_readsBack.2.closed _, sqlText_readsBack.2.literals _, sqlText_readsBack.2.outside _ _ rfl⟩

end VirtualRecords
