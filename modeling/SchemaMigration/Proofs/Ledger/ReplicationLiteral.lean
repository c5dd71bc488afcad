import SchemaMigration.Ledger
import SchemaMigration.Proofs.Config.Validity
import SchemaMigration.Proofs.Text.Numeral
import SchemaMigration.Proofs.Text.Pieces

/-!
# What a replication literal means

The replication of a keyspace is written into its statement as a map literal. Such a literal is read
here, as its grammar has it: texts in quotes, a quote in a text doubled, numbers, and blanks
wherever they do not matter. The strategy has an entry of its own among those of the datacenters,
whose names are free.

* `MapLiteral.read?`: the entries of a map literal.
* `Replication.read?_literal`: a valid setting is written as such a literal.
* `Replication.Meant`: a map that says what a setting says.
* `Replication.literal_means_setting`: what is written means the setting, unless a datacenter has
  the name that the strategy's entry has.
-/

namespace SchemaMigration

/-! ## Map literals -/

namespace MapLiteral

/-- A constant in a map literal. -/
inductive Constant where
  | text (value : String)
  | number (value : Nat)
  deriving DecidableEq, Repr

/-- A text up to the quote that closes it, and what is behind. -/
def quoted? : List Char → Option (List Char × List Char)
  | [] => none
  | '\x27' :: '\x27' :: rest => (quoted? rest).map fun (text, rest) => ('\x27' :: text, rest)
  | '\x27' :: rest => some ([], rest)
  | c :: rest => (quoted? rest).map fun (text, rest) => (c :: text, rest)

/-- The constant at the start of a text, and what is behind. -/
def constant? : List Char → Option (Constant × List Char)
  | '\x27' :: rest => (quoted? rest).map fun (text, rest) => (.text (String.ofList text), rest)
  | s =>
    let digits := s.takeWhile Text.isDigit
    (Text.ofDigits? 10 digits).map fun n => (.number n, s.drop digits.length)

/-- What is behind a mark, if that comes next. -/
def mark? (mark : Char) (s : List Char) : Option (List Char) :=
  match Text.trimStart s with
  | [] => none
  | c :: rest => if c = mark then some rest else none

/-- A key with its value, and what is behind. -/
def entry? (s : List Char) : Option ((String × Constant) × List Char) :=
  match constant? (Text.trimStart s) with
  | some (.text key, rest) => do
    let rest ← mark? ':' rest
    let (value, rest) ← constant? (Text.trimStart rest)
    some ((key, value), rest)
  | _ => none

/-- Entries with commas between them up to the closing brace, and what is behind. There are at most
as many as there are characters. -/
def entries? : Nat → List Char → Option (List (String × Constant) × List Char)
  | 0, _ => none
  | fuel + 1, s => do
    let (entry, rest) ← entry? s
    match mark? ',' rest with
    | some rest => do
      let (entries, rest) ← entries? fuel rest
      some (entry :: entries, rest)
    | none => do
      let rest ← mark? '\x7d' rest
      some ([entry], rest)

/-- The entries of a map literal, if a text is one. -/
def read? (text : String) : Option (List (String × Constant)) := do
  let rest ← mark? '\x7b' text.toList
  let (entries, rest) ← match mark? '\x7d' rest with
    | some rest => some ([], rest)
    | none => entries? rest.length rest
  if (Text.trimStart rest).isEmpty then some entries else none

/-- A text in quotes. -/
def quote (s : String) : List Char :=
  '\x27' :: (s.toList ++ ['\x27'])

variable {s : String} {c : Char} {rest : List Char}

theorem trimStart_cons (h : Text.isBlank c = false) : Text.trimStart (c :: rest) = c :: rest :=
  Text.trimStart_of_first (by simpa using h)

theorem mark?_cons {mark : Char} (h : Text.isBlank c = false) :
    mark? mark (c :: rest) = if c = mark then some rest else none := by
  rw [mark?, trimStart_cons h]

theorem quoted?_append {text : List Char} (htext : '\x27' ∉ text) (hc : c ≠ '\x27') :
    quoted? (text ++ '\x27' :: c :: rest) = some (text, c :: rest) := by
  induction text with
  | nil => simp [quoted?, hc]
  | cons d text ih =>
    rw [List.mem_cons, not_or] at htext
    have hd : d ≠ '\x27' := Ne.symm htext.1
    rw [List.cons_append, quoted?, ih htext.2]
    · rfl
    all_goals simp [hd]

theorem constant?_quote (hs : '\x27' ∉ s.toList) (hc : c ≠ '\x27') :
    constant? (quote s ++ c :: rest) = some (.text s, c :: rest) := by
  have hquote : quote s ++ c :: rest = '\x27' :: (s.toList ++ '\x27' :: c :: rest) := by
    simp [quote]
  rw [hquote, constant?, quoted?_append hs hc]
  simp

theorem constant?_decimal (n : Nat) (hc : Text.isDigit c = false) :
    constant? ((Text.decimal n).toList ++ c :: rest) = some (.number n, c :: rest) := by
  have hdigits : ∀ d ∈ (Text.decimal n).toList, Text.isDigit d = true := fun _ =>
    Text.isDigit_of_mem_decimal
  have htake : ((Text.decimal n).toList ++ c :: rest).takeWhile Text.isDigit =
      (Text.decimal n).toList := by
    rw [List.takeWhile_append_of_pos hdigits, List.takeWhile_cons_of_neg (by simp [hc]),
      List.append_nil]
  have hread := Text.ofDigits?_decimal n
  unfold constant?
  split
  · next tail hquote =>
    -- a numeral does not begin with a quote
    rcases hnumeral : (Text.decimal n).toList with _ | ⟨d, ds⟩
    · simp [hnumeral, Text.ofDigits?] at hread
    · have hd := hdigits d (by simp [hnumeral])
      rw [hnumeral, List.cons_append, List.cons.injEq] at hquote
      rw [hquote.1] at hd
      cases hd
  · simp [htake, hread]

/-! ## Reading what is written -/

/-- A text that is read as a constant, if a comma or a brace follows. -/
structure Writes (text : List Char) (value : Constant) : Prop where
  trimmed : ∀ tail, Text.trimStart (text ++ tail) = text ++ tail
  read : ∀ c rest, c = ',' ∨ c = '\x7d' → constant? (text ++ c :: rest) = some (value, c :: rest)

/-- A text that is read as an entry, if a comma or a brace follows. -/
def Spells (text : List Char) (entry : String × Constant) : Prop :=
  ∀ c rest, c = ',' ∨ c = '\x7d' → entry? (text ++ c :: rest) = some (entry, c :: rest)

theorem writes_quote (hs : '\x27' ∉ s.toList) : Writes (quote s) (.text s) where
  trimmed := fun _ => trimStart_cons (by decide)
  read := by
    rintro c rest (rfl | rfl)
    · exact constant?_quote hs (by decide)
    · exact constant?_quote hs (by decide)

theorem writes_decimal (n : Nat) : Writes (Text.decimal n).toList (.number n) where
  trimmed := fun tail => by
    rcases hnumeral : (Text.decimal n).toList with _ | ⟨d, ds⟩
    · rw [Text.toList_decimal] at hnumeral
      exact absurd hnumeral Nat.toDigits_ne_nil
    · have hd : Text.isDigit d = true := Text.isDigit_of_mem_decimal (hnumeral ▸ List.mem_cons_self)
      have hbounds := Text.isDigit_iff.mp hd
      exact trimStart_cons (Text.isBlank_eq_false (by omega) (by omega))
  read := by
    rintro c rest (rfl | rfl)
    · exact constant?_decimal n (by decide)
    · exact constant?_decimal n (by decide)

theorem Writes.entry {text : List Char} {value : Constant} (h : Writes text value) {key : String}
    (hkey : '\x27' ∉ key.toList) : Spells (quote key ++ ':' :: ' ' :: text) (key, value) := by
  intro c rest hc
  have hsplit : quote key ++ ':' :: ' ' :: text ++ c :: rest =
      quote key ++ ':' :: (' ' :: (text ++ c :: rest)) := by simp
  have hblank : Text.trimStart (' ' :: (text ++ c :: rest)) = text ++ c :: rest :=
    (List.dropWhile_cons_of_pos (by decide)).trans (h.trimmed _)
  rw [hsplit, entry?, (writes_quote hkey).trimmed, constant?_quote hkey (by decide)]
  simp [mark?_cons (c := ':') (by decide), hblank, h.read c rest hc]

/-- A blank in front makes no difference. -/
theorem Spells.blank {text : List Char} {entry : String × Constant} (h : Spells text entry) :
    Spells (' ' :: text) entry := by
  intro c rest hc
  have hblank : Text.trimStart (' ' :: (text ++ c :: rest)) = Text.trimStart (text ++ c :: rest) :=
    List.dropWhile_cons_of_pos (by decide)
  rw [← h c rest hc, List.cons_append, entry?, entry?, hblank]

/-- The text of an entry, after its comma. -/
def settingText (setting : String × UInt8) : List Char :=
  ' ' :: (quote setting.1 ++ ':' :: ' ' :: (Text.decimal setting.2.toNat).toList)

theorem toList_replicationEntry (setting : String × UInt8) :
    (replicationEntry setting).toList = ',' :: settingText setting := by
  simp [replicationEntry, settingText, quote]

/-- A first entry with more of them behind it is read to the closing brace. -/
theorem entries?_settings {first : List Char} {entry : String × Constant}
    (hfirst : Spells first entry) {settings : List (String × UInt8)}
    (hnames : ∀ setting ∈ settings, '\x27' ∉ setting.1.toList) {fuel : Nat}
    (hfuel : settings.length < fuel) :
    entries? fuel (first ++ (settings.flatMap (fun e => ',' :: settingText e) ++ ['\x7d'])) =
      some (entry :: settings.map fun e => (e.1, .number e.2.toNat), []) := by
  -- behind a comma the next setting is the first entry of what is left
  induction settings generalizing first entry fuel with
  | nil =>
    obtain ⟨fuel, rfl⟩ := Nat.exists_eq_add_one_of_ne_zero (Nat.ne_zero_of_lt hfuel)
    have hbrace : ∀ mark, mark? mark ['\x7d'] = if '\x7d' = mark then some [] else none := fun _ =>
      mark?_cons (by decide)
    simp [entries?, hfirst '\x7d' [] (.inr rfl), hbrace]
  | cons setting settings ih =>
    obtain ⟨fuel, rfl⟩ := Nat.exists_eq_add_one_of_ne_zero (Nat.ne_zero_of_lt hfuel)
    rw [List.forall_mem_cons] at hnames
    have hspells : Spells (settingText setting) (setting.1, .number setting.2.toNat) :=
      ((writes_decimal _).entry hnames.1).blank
    have hrest := ih hspells hnames.2 (Nat.lt_of_succ_lt_succ hfuel)
    rw [List.flatMap_cons, List.cons_append, List.cons_append, entries?, hfirst ',' _ (.inl rfl)]
    simp [mark?_cons (c := ',') (by decide), hrest]

end MapLiteral

/-! ## The literal of a setting -/

namespace Replication

open MapLiteral

/-- The name of the strategy of a setting. -/
def strategy : Replication → String
  | .simple _ => "SimpleStrategy"
  | .perDatacenter _ => "NetworkTopologyStrategy"

/-- The numbers of a setting: the one factor, or a factor for each datacenter. -/
def settings : Replication → List (String × UInt8)
  | .simple factor => [("replication_factor", factor)]
  | .perDatacenter dcs => dcs.entries

/-- A map that says what a setting says: the strategy under a key of its own, and under the other
keys the numbers. -/
structure Meant (setting : Replication) (map : List (String × Constant)) : Prop where
  distinct : (map.map Prod.fst).Nodup
  strategy : map.lookup "class" = some (.text setting.strategy)
  others : ∀ key, key ≠ "class" →
    map.lookup key = (setting.settings.lookup key).map fun factor => .number factor.toNat

variable {setting : Replication}

theorem toList_literal (setting : Replication) : setting.literal.toList =
    '\x7b' :: (quote "class" ++ ':' :: ' ' :: quote setting.strategy ++
      (setting.settings.flatMap (fun e => ',' :: settingText e) ++ ['\x7d'])) := by
  cases setting with
  | simple factor =>
    have hfront : "\x7b'class': 'SimpleStrategy', 'replication_factor': ".toList =
        '\x7b' :: (quote "class" ++ ':' :: ' ' :: quote "SimpleStrategy" ++
          ',' :: ' ' :: (quote "replication_factor" ++ [':', ' '])) := by decide +kernel
    unfold literal
    rw [String.toList_append, String.toList_append, hfront]
    simp [strategy, settings, settingText]
  | perDatacenter dcs =>
    have hfront : "\x7b'class': 'NetworkTopologyStrategy'".toList =
        '\x7b' :: (quote "class" ++ ':' :: ' ' :: quote "NetworkTopologyStrategy") := by
      decide +kernel
    unfold literal
    rw [String.toList_append, String.toList_append, hfront]
    simp [strategy, settings, toList_replicationEntry, List.flatMap_map]

/-- The names in a valid setting are made of the characters that may name a datacenter. -/
theorem Valid.isNameChar (h : setting.Valid) :
    ∀ e ∈ setting.settings, ∀ c ∈ e.1.toList, isNameChar c = true := by
  have hname : ∀ e ∈ setting.settings, isName e.1 = true := by
    cases setting with
    | simple factor =>
      have hword : isName "replication_factor" = true := by decide +kernel
      intro e he
      rw [List.mem_singleton.mp he]
      exact hword
    | perDatacenter dcs => exact fun e he => isName_iff.mpr (h.2 e he).1
  intro e he
  have hchars := hname e he
  rw [isName, Bool.and_eq_true, List.all_eq_true] at hchars
  exact hchars.2

theorem read?_literal (h : setting.Valid) : MapLiteral.read? setting.literal =
    some (("class", .text setting.strategy) ::
      setting.settings.map fun e => (e.1, .number e.2.toNat)) := by
  have hnames : ∀ e ∈ setting.settings, '\x27' ∉ e.1.toList := fun e he hquote =>
    absurd (h.isNameChar e he _ hquote) (by decide)
  have hstrategy : '\x27' ∉ setting.strategy.toList := by
    cases setting <;> simp [strategy]
  have hfirst : Spells (quote "class" ++ ':' :: ' ' :: quote setting.strategy)
      ("class", .text setting.strategy) := (writes_quote hstrategy).entry (by decide)
  have hlength : setting.settings.length ≤
      (setting.settings.flatMap fun e => ',' :: settingText e).length := by
    induction setting.settings with
    | nil => exact Nat.le_refl 0
    | cons e settings ih =>
      rw [List.flatMap_cons, List.length_append, List.length_cons, List.length_cons]
      omega
  rw [MapLiteral.read?, toList_literal, mark?_cons (by decide), if_pos rfl, Option.bind_eq_bind,
    Option.bind_some]
  -- the literal is not empty, so that entries are read
  have hclass : mark? '\x7d' (quote "class" ++ ':' :: ' ' :: quote setting.strategy ++
      (setting.settings.flatMap (fun e => ',' :: settingText e) ++ ['\x7d'])) = none :=
    mark?_cons (by decide)
  rw [hclass]
  simp only [Option.bind_eq_bind]
  rw [entries?_settings hfirst hnames (by
    simp only [List.length_append, List.length_cons]
    omega)]
  rfl

/-- The names under which a literal has its entries differ, unless one of them is that of the
strategy's entry. -/
theorem nodup_settings (setting : Replication) : (setting.settings.map Prod.fst).Nodup := by
  cases setting with
  | simple factor => simp [settings]
  | perDatacenter dcs =>
    rw [settings, List.Nodup, List.pairwise_map]
    exact dcs.ordered.imp fun hlt => String.ne_of_lt hlt

theorem lookup_map_number (entries : List (String × UInt8)) (key : String) :
    (entries.map fun e => (e.1, Constant.number e.2.toNat)).lookup key =
      (entries.lookup key).map fun factor => .number factor.toNat := by
  induction entries with
  | nil => rfl
  | cons e entries ih =>
    rw [List.map_cons, List.lookup_cons, List.lookup_cons, ih]
    split <;> rfl

/-- The entries of the literal say what the setting says, unless the strategy's key comes twice. -/
theorem meant_iff (setting : Replication) :
    setting.Meant (("class", .text setting.strategy) ::
        setting.settings.map fun e => (e.1, .number e.2.toNat)) ↔
      "class" ∉ setting.settings.map Prod.fst := by
  have hkeys : (setting.settings.map fun e => (e.1, Constant.number e.2.toNat)).map Prod.fst =
      setting.settings.map Prod.fst := by
    rw [List.map_map]
    rfl
  constructor
  · intro h
    have hdistinct := h.distinct
    rw [List.map_cons, hkeys, List.nodup_cons] at hdistinct
    exact hdistinct.1
  · intro h
    refine ⟨?_, List.lookup_cons_self, fun key hkey => ?_⟩
    · rw [List.map_cons, hkeys]
      exact List.nodup_cons.mpr ⟨h, setting.nodup_settings⟩
    · have hne : (key == "class") = false := by simpa using hkey
      rw [List.lookup_cons, hne]
      exact lookup_map_number _ _

/-- **The replication literal.** The replication of a configuration is written as a well-formed map
literal. It says what the configuration says, under keys that differ from each other, if and only if
no datacenter is called like the key of the strategy. -/
theorem literal_means_setting {layer : Layer} {config : Config}
    (h : Config.resolve layer = .ok config) {l : Ledger} (hdialect : l.dialect = .cql) :
    ∃ literal map, (l.createKeyspace config.replication).text =
        "CREATE KEYSPACE " ++ l.keyspace.text ++ " WITH replication = " ++ literal ∧
      MapLiteral.read? literal = some map ∧
      (config.replication.Meant map ↔ "class" ∉ config.replication.settings.map Prod.fst) := by
  refine ⟨config.replication.literal, _, ?_, read?_literal (Config.valid_replication_of_resolve h),
    meant_iff _⟩
  unfold Ledger.createKeyspace
  rw [hdialect]
  rfl

namespace Sample

/-- The ledger of a stock-keeping. -/
def stock : Ledger where
  dialect := .cql
  keyspace := ⟨"stock", by decide⟩
  table := ⟨"applied", by decide⟩
  checksums := false

/-- A layer with its names, and with a factor for each of some datacenters. -/
def replicated (datacenters : List (String × UInt8)) : Layer where
  scriptDirectory := some "cql"
  keyspace := some "stock"
  table := some "applied"
  replication := some (.perDatacenter (.ofList datacenters))

/-- The configuration that the layer describes. -/
def spread (datacenters : List (String × UInt8)) : Config where
  database := {}
  scriptDirectory := "cql"
  keyspace := stock.keyspace
  table := stock.table
  refresh := false
  verifyChecksums := false
  timeoutSeconds := 10
  replication := .perDatacenter (.ofList datacenters)

theorem resolve_replicated {datacenters : List (String × UInt8)}
    (h : (Replication.perDatacenter (.ofList datacenters)).fault? = none) :
    Config.resolve (replicated datacenters) = .ok (spread datacenters) := by
  have hcheck : Config.checkReplication (.perDatacenter (.ofList datacenters)) = .ok () := by
    rw [Config.checkReplication, h]
  simp only [Config.resolve, replicated, Option.getD_some, Option.getD_none, hcheck]
  rfl

end Sample

/-- Names with capitals, a hyphen and a point. -/
theorem literal_means_setting_sample :
    let datacenters : List (String × UInt8) := [("Class", 3), ("eu-west.1", 2)]
    Config.resolve (Sample.replicated datacenters) = .ok (Sample.spread datacenters) ∧
      Sample.stock.dialect = .cql ∧
      ∃ literal map, (Sample.stock.createKeyspace (Sample.spread datacenters).replication).text =
          "CREATE KEYSPACE " ++ Sample.stock.keyspace.text ++ " WITH replication = " ++ literal ∧
        MapLiteral.read? literal = some map ∧
        (Sample.spread datacenters).replication.Meant map := by
  intro datacenters
  have hresolve : Config.resolve (Sample.replicated datacenters) =
      .ok (Sample.spread datacenters) := Sample.resolve_replicated (by decide +kernel)
  obtain ⟨literal, map, htext, hread, hmeant⟩ := literal_means_setting hresolve
    (l := Sample.stock) rfl
  exact ⟨hresolve, rfl, literal, map, htext, hread, hmeant.mpr (by decide +kernel)⟩

/-- A datacenter may be called `class`, and then the literal has two entries under that key. -/
theorem exists_key_twice :
    let datacenters : List (String × UInt8) := [("class", 3)]
    let literal := "\x7b'class': 'NetworkTopologyStrategy', 'class': 3\x7d"
    Config.resolve (Sample.replicated datacenters) = .ok (Sample.spread datacenters) ∧
      (Sample.stock.createKeyspace (Sample.spread datacenters).replication).text =
        "CREATE KEYSPACE stock WITH replication = " ++ literal ∧
      ¬∃ map, MapLiteral.read? literal = some map ∧ (map.map Prod.fst).Nodup := by
  intro datacenters literal
  refine ⟨Sample.resolve_replicated (by decide +kernel), by decide +kernel, ?_⟩
  have hread : MapLiteral.read? literal =
      some [("class", .text "NetworkTopologyStrategy"), ("class", .number 3)] := by decide +kernel
  rintro ⟨map, hmap, hdistinct⟩
  rw [hread, Option.some.injEq] at hmap
  subst hmap
  exact absurd hdistinct (by decide)

end Replication

end SchemaMigration
