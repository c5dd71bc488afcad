import SchemaMigration.Proofs.Ledger.ReplicationLiteral
import SchemaMigration.Proofs.Store.Tables

/-!
# What the texts of the statements are made of

A statement's text is fixed but for the two names, which are spliced into it. Nothing else about a
script or a row gets there, and a name cannot end the place where it stands.

* `Template.fill`: a text with places for the names of the keyspace and the table.
* `Ledger.texts_eq_fill`: the texts of the statements, from templates that know no script.
* `Ledger.count_placeholders`: there are as many placeholders as values.
* `Ledger.qualified_inj`: a qualified name has one keyspace and one table.
* `Ledger.texts_carry_names`: all this for names and a replication that are accepted.
-/

namespace SchemaMigration

/-- A piece of a text: a fixed one, or the place of a name. -/
inductive Piece where
  | fixed (text : String)
  | keyspace
  | table

/-- A text with places for names. -/
abbrev Template := List Piece

namespace Template

/-- A piece with the names of a ledger. -/
def fillPiece (l : Ledger) : Piece → String
  | .fixed text => text
  | .keyspace => l.keyspace.text
  | .table => l.table.text

/-- A text with the names of a ledger. -/
def fill (l : Ledger) : Template → String
  | [] => ""
  | piece :: template => fillPiece l piece ++ fill l template

/-- How many placeholders a piece has. A name has none. -/
def placeholdersIn : Piece → Nat
  | .fixed text => text.toList.count '?'
  | _ => 0

/-- How many placeholders a text has. -/
def placeholders (template : Template) : Nat :=
  (template.map placeholdersIn).sum

theorem fill_singleton (l : Ledger) (piece : Piece) : fill l [piece] = fillPiece l piece :=
  String.append_empty

theorem fill_cons_cons (l : Ledger) (piece next : Piece) (template : Template) :
    fill l (piece :: next :: template) = fillPiece l piece ++ fill l (next :: template) :=
  rfl

theorem count_fillPiece (l : Ledger) (piece : Piece) :
    (fillPiece l piece).toList.count '?' = placeholdersIn piece := by
  cases piece with
  | fixed text => rfl
  | keyspace => exact List.count_eq_zero.mpr (l.keyspace.not_mem_of_not_isLowerTail (by decide))
  | table => exact List.count_eq_zero.mpr (l.table.not_mem_of_not_isLowerTail (by decide))

/-- The names bring no placeholder. -/
theorem count_fill (l : Ledger) (template : Template) :
    (template.fill l).toList.count '?' = template.placeholders := by
  induction template with
  | nil => rfl
  | cons piece template ih =>
    rw [fill, String.toList_append, List.count_append, count_fillPiece, ih]
    rfl

end Template

namespace Name

/-- A text that stays inside the place of a name: a lowercase letter, then lowercase letters, digits
and underscores, and so nothing that ends a name or a statement. -/
structure Plain (text : String) : Prop where
  form : ∃ first rest, text.toList = first :: rest ∧ isLower first = true ∧
    ∀ c ∈ rest, isLower c = true ∨ Text.isDigit c = true ∨ c = '_'
  inside : ∀ c ∈ text.toList, c ∉ ['\x27', '"', '.', ';', '?'] ∧ Text.isBlank c = false

variable {kind : NameKind}

theorem bounds_of_isLowerTail {c : Char} (h : isLowerTail c = true) :
    48 ≤ c.toNat ∧ c.toNat ≤ 122 := by
  simp only [isLowerTail, Bool.or_eq_true, isLower_iff, Text.isDigit_iff, beq_iff_eq] at h
  rcases h with (h | h) | rfl
  · omega
  · omega
  · decide

theorem plain (name : Name kind) : Plain name.text where
  form := name.exists_cons
  inside := by
    intro c hc
    have htail := name.isLowerTail_of_mem hc
    have hbounds := bounds_of_isLowerTail htail
    refine ⟨fun hmem => ?_, Text.isBlank_eq_false (by omega) (by omega)⟩
    simp only [List.mem_cons, List.not_mem_nil, or_false] at hmem
    rcases hmem with rfl | rfl | rfl | rfl | rfl <;> exact absurd htail (by decide)

end Name

namespace Replication

variable {setting : Replication}

theorem valid_of_check (h : Config.checkReplication setting = .ok ()) : setting.Valid :=
  forall_mem_rules_iff.mp ((obeyed_checkReplication setting).exists_ok_iff.mp ⟨(), h⟩)

theorem count_literal (h : setting.Valid) : setting.literal.toList.count '?' = 0 := by
  have hnames : ∀ e ∈ setting.settings, '?' ∉ e.1.toList := fun e he hmark =>
    absurd (h.isNameChar e he _ hmark) (by decide)
  have hstrategy : '?' ∉ setting.strategy.toList := by
    cases setting <;> simp [strategy]
  have hnumber : ∀ n, '?' ∉ (Text.decimal n).toList := fun n hmem =>
    absurd (Text.isDigit_of_mem_decimal hmem) (by decide)
  rw [List.count_eq_zero, toList_literal]
  simpa [MapLiteral.quote, MapLiteral.settingText, hstrategy, hnumber] using hnames

end Replication

namespace Ledger

variable (l : Ledger) (replication : Replication) (id : Uuid) (version : Int) (script : Script)

/-- The six statements; the last one is about a row. -/
def statements : List Statement :=
  [l.listTables, l.dropKeyspace, l.createKeyspace replication, l.createTable, l.selectRows,
    l.insertRow id version script]

/-- The texts of the statements without the names. -/
def templates : List Template :=
  (match l.dialect with
  | .cql =>
    [[.fixed "SELECT table_name FROM system_schema.tables WHERE keyspace_name = ?"],
      [.fixed "DROP KEYSPACE ", .keyspace],
      [.fixed "CREATE KEYSPACE ", .keyspace, .fixed " WITH replication = ",
        .fixed replication.literal]]
  | .duckdb =>
    [[.fixed "SELECT table_name FROM information_schema.tables WHERE table_schema = ?"],
      [.fixed "DROP SCHEMA ", .keyspace, .fixed " CASCADE"],
      [.fixed "CREATE SCHEMA ", .keyspace]]) ++
  [[.fixed "CREATE TABLE ", .keyspace, .fixed ".", .table, .fixed " (", .fixed l.columnTypes,
      .fixed ")"],
    [.fixed "SELECT ", .fixed l.columns, .fixed " FROM ", .keyspace, .fixed ".", .table],
    [.fixed "INSERT INTO ", .keyspace, .fixed ".", .table, .fixed " (id, ", .fixed l.columns,
      .fixed ") VALUES (",
      .fixed (match l.dialect with
        | .cql => "now()"
        | .duckdb => "CAST(? AS UUID)"),
      .fixed ", ", .fixed l.placeholders, .fixed ")"]]

theorem texts_eq_fill : (l.statements replication id version script).map Statement.text =
    (l.templates replication).map (Template.fill l) := by
  obtain ⟨_ | _, keyspace, table, checksums⟩ := l <;>
    simp only [statements, templates, listTables, dropKeyspace, createKeyspace, createTable,
      selectRows, insertRow, Statement.query, Statement.execute, List.map_cons, List.map_nil,
      List.cons_append, List.nil_append, Template.fill_cons_cons, Template.fill_singleton,
      Template.fillPiece]
  -- the statements join their pieces from the left, the templates from the right
  all_goals
    unfold insertText
    simp only [qualified, String.append_assoc]

/-- The templates have a placeholder for each value. -/
theorem placeholders_templates (h : replication.Valid) :
    (l.templates replication).map Template.placeholders =
      (l.statements replication id version script).map (·.values.length) := by
  have hliteral := Replication.count_literal h
  obtain ⟨_ | _, keyspace, table, _ | _⟩ := l <;>
    simp only [statements, templates, listTables, dropKeyspace, createKeyspace, createTable,
      selectRows, insertRow, Statement.query, Statement.execute, columnTypes, columns,
      Ledger.placeholders, rowValues, List.map_cons, List.map_nil, List.cons_append,
      List.nil_append, List.length_cons, List.length_nil, Template.placeholders,
      Template.placeholdersIn, hliteral, if_true, if_false, Bool.false_eq_true] <;>
    decide +kernel

/-- There are as many placeholders as values, so no name brings one. -/
theorem count_placeholders (h : replication.Valid) {statement : Statement}
    (hmem : statement ∈ l.statements replication id version script) :
    statement.text.toList.count '?' = statement.values.length := by
  have hcounts : (l.statements replication id version script).map (·.text.toList.count '?') =
      (l.statements replication id version script).map (·.values.length) := by
    calc (l.statements replication id version script).map (·.text.toList.count '?')
        = ((l.statements replication id version script).map Statement.text).map
            (·.toList.count '?') := by rw [List.map_map]; rfl
      _ = (l.templates replication).map Template.placeholders := by
        rw [texts_eq_fill, List.map_map]
        exact List.map_congr_left fun template _ => template.count_fill l
      _ = (l.statements replication id version script).map (·.values.length) :=
        l.placeholders_templates replication id version script h
  exact List.map_inj_left.mp hcounts statement hmem

variable {l l' : Ledger}

/-- The point in a qualified name stands where the keyspace ends. -/
theorem qualified_inj :
    l.qualified = l'.qualified ↔
      l.keyspace.text = l'.keyspace.text ∧ l.table.text = l'.table.text := by
  constructor
  · intro h
    have hsplit := congrArg Store.splitName h
    rw [l.splitName_qualified, l'.splitName_qualified] at hsplit
    exact Prod.mk.inj hsplit
  · rintro ⟨hkeyspace, htable⟩
    rw [qualified, qualified, hkeyspace, htable]

section Shape

variable (hdialect : l'.dialect = l.dialect) (hchecksums : l'.checksums = l.checksums)
include hdialect hchecksums

/-- The templates do not depend on the names. -/
theorem templates_congr (replication : Replication) :
    l'.templates replication = l.templates replication := by
  unfold templates columnTypes columns Ledger.placeholders
  rw [hdialect, hchecksums]

theorem createTable_text_inj :
    l.createTable.text = l'.createTable.text ↔ l.qualified = l'.qualified := by
  have htypes : l'.columnTypes = l.columnTypes := by
    unfold columnTypes
    rw [hdialect, hchecksums]
  simp only [createTable, Statement.execute, htypes, String.append_left_inj,
    String.append_right_inj]

omit hdialect in
theorem selectRows_text_inj :
    l.selectRows.text = l'.selectRows.text ↔ l.qualified = l'.qualified := by
  have hcolumns : l'.columns = l.columns := by
    unfold columns
    rw [hchecksums]
  simp only [selectRows, Statement.query, hcolumns, String.append_right_inj]

omit hdialect in
theorem insertText_inj (idValue : String) :
    l.insertText idValue = l'.insertText idValue ↔ l.qualified = l'.qualified := by
  have hcolumns : l'.columns = l.columns := by
    unfold columns
    rw [hchecksums]
  have hplaceholders : l'.placeholders = l.placeholders := by
    unfold Ledger.placeholders
    rw [hchecksums]
  unfold insertText
  simp only [hcolumns, hplaceholders, String.append_left_inj, String.append_right_inj]

theorem insertRow_text_inj (id id' : Uuid) (version version' : Int) (script script' : Script) :
    (l.insertRow id version script).text = (l'.insertRow id' version' script').text ↔
      l.qualified = l'.qualified := by
  unfold insertRow
  rw [hdialect]
  cases l.dialect with
  | cql => exact insertText_inj hchecksums _
  | duckdb => exact insertText_inj hchecksums _

end Shape

/-- The ledger's names are the ones that two texts spell. -/
structure NamedBy (l : Ledger) (keyspace table : String) : Prop where
  keyspace : Name.parse .keyspace keyspace = .ok l.keyspace
  table : Name.parse .table table = .ok l.table

/-- Two ledgers have the same qualified name if the texts of their names differ in case only. -/
theorem NamedBy.qualified_inj {keyspace table keyspace' table' : String}
    (h : l.NamedBy keyspace table) (h' : l'.NamedBy keyspace' table') :
    l.qualified = l'.qualified ↔
      Name.SameUpToCase keyspace keyspace' ∧ Name.SameUpToCase table table' := by
  have hkeyspace := (Name.parse_eq_ok_iff.mp h.keyspace).2
  have htable := (Name.parse_eq_ok_iff.mp h.table).2
  have hkeyspace' := (Name.parse_eq_ok_iff.mp h'.keyspace).2
  have htable' := (Name.parse_eq_ok_iff.mp h'.table).2
  rw [Ledger.qualified_inj, hkeyspace, hkeyspace', htable, htable', Name.fold_eq_fold_iff,
    Name.fold_eq_fold_iff]

/-- **What the texts carry.** Take names that are accepted and a replication that is accepted. The
text that adds a row is the same for all rows. Each text has as many placeholders as its statement
has values. It is a template, in which only the dialect, the checksums and the replication count,
with the two names in it; they are plain, and so are the names of datacenters. The texts about the
ledger are those of another one exactly if its names are the same up to case. -/
theorem texts_carry_names {l : Ledger} {keyspace table : String} (hnames : l.NamedBy keyspace table)
    {replication : Replication} (hreplication : Config.checkReplication replication = .ok ()) :
    (∀ id id' version version' script script',
      (l.insertRow id version script).text = (l.insertRow id' version' script').text) ∧
    (∀ id version script, ∀ statement ∈ l.statements replication id version script,
      statement.text.toList.count '?' = statement.values.length) ∧
    (∃ templates : List Template, ∀ l' : Ledger, l'.dialect = l.dialect →
      l'.checksums = l.checksums → ∀ id version script,
        (l'.statements replication id version script).map Statement.text =
          templates.map (Template.fill l')) ∧
    Name.Plain l.keyspace.text ∧ Name.Plain l.table.text ∧
    (∀ e ∈ replication.settings, ∀ c ∈ e.1.toList, Replication.isNameChar c = true) ∧
    ∀ (l' : Ledger) (keyspace' table' : String), l'.NamedBy keyspace' table' →
      l'.dialect = l.dialect → l'.checksums = l.checksums →
        let same := Name.SameUpToCase keyspace keyspace' ∧ Name.SameUpToCase table table'
        (l.createTable.text = l'.createTable.text ↔ same) ∧
        (l.selectRows.text = l'.selectRows.text ↔ same) ∧
        ∀ id id' version version' script script',
          (l.insertRow id version script).text = (l'.insertRow id' version' script').text ↔
            same := by
  have hvalid := Replication.valid_of_check hreplication
  refine ⟨fun id id' version version' script script' => ?_, fun id version script statement hmem =>
    l.count_placeholders replication id version script hvalid hmem, ⟨l.templates replication,
    fun l' hdialect hchecksums id version script => ?_⟩, l.keyspace.plain, l.table.plain,
    hvalid.isNameChar, fun l' keyspace' table' hnames' hdialect hchecksums => ?_⟩
  · exact (insertRow_text_inj rfl rfl id id' version version' script script').mpr rfl
  · rw [l'.texts_eq_fill, templates_congr hdialect hchecksums]
  · rw [createTable_text_inj hdialect hchecksums, selectRows_text_inj hchecksums]
    simp only [insertRow_text_inj hdialect hchecksums, hnames.qualified_inj hnames', iff_self,
      implies_true, and_self]

/-- The ledger of a stock-keeping, from names with capitals, and one with another table. -/
theorem texts_carry_names_sample :
    Replication.Sample.stock.NamedBy "Stock" "Applied" ∧
      Config.checkReplication (.simple 3) = .ok () ∧
      (∀ id version script,
        ∀ statement ∈ Replication.Sample.stock.statements (.simple 3) id version script,
          statement.text.toList.count '?' = statement.values.length) ∧
      ∀ other : Ledger, other.NamedBy "STOCK" "log" → other.dialect = .cql →
        other.checksums = false →
          Replication.Sample.stock.selectRows.text ≠ other.selectRows.text := by
  have hnames : Replication.Sample.stock.NamedBy "Stock" "Applied" := ⟨rfl, rfl⟩
  have hreplication : Config.checkReplication (.simple 3) = .ok () := rfl
  obtain ⟨-, hcount, -, -, -, -, hother⟩ := texts_carry_names hnames hreplication
  refine ⟨hnames, hreplication, hcount, fun other hnames' hdialect hchecksums htext => ?_⟩
  obtain ⟨-, htable⟩ := (hother other _ _ hnames' hdialect hchecksums).2.1.mp htext
  -- the tables' names differ in length
  exact absurd htable.length_eq (by decide)

end Ledger

end SchemaMigration
