import Seedbed.Generator.Faker

/-!
# The built-in generators
-/

namespace Seedbed

/-- The registry of all built-in generators. -/
def Registry.builtIn : Registry :=
  (Registry.empty.insertAll Faker.generators).insertAll Primitive.generators

end Seedbed
