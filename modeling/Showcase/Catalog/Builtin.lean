import Showcase.Catalog.Basic

/-!
# The built-in catalog

The entries of the sample programs that are always there.  Nothing here promises that a source
file exists for each of them.
-/

namespace Showcase.Catalog

/-- The built-in entries. -/
def builtinEntries : List Entry := [
    { key := "hello_world.rs", title := "Hello, World", category := "Basics",
      description := "The smallest complete program: print a line and exit." },
    { key := "variables.rs", title := "Variables and Mutability", category := "Basics",
      description := "let bindings, shadowing, mut and constants." },
    { key := "fizzbuzz.rs", title := "FizzBuzz", category := "Control Flow",
      description := "Loops, ranges and match on tuples." },
    { key := "guessing_game.rs", title := "Guessing Game", category := "Control Flow",
      description := "Read stdin in a loop and compare with Ordering." },
    { key := "closures.rs", title := "Closures", category := "Functions",
      description := "Capturing environment, Fn traits and returning closures." },
    { key := "structs.rs", title := "Structs and Methods", category := "Data",
      description := "Named structs, impl blocks and associated functions." },
    { key := "enums.rs", title := "Enums and Pattern Matching", category := "Data",
      description := "Option, custom enums and exhaustive match." },
    { key := "traits.rs", title := "Traits", category := "Functions",
      description := "Shared behaviour with trait bounds and default methods." },
    { key := "error_handling.rs", title := "Error Handling", category := "Basics",
      description := "Result, the ? operator and custom error types." },
    { key := "iterators.rs", title := "Iterators", category := "Data",
      description := "Adapters, collect and writing your own Iterator." },
    { key := "threads.rs", title := "Threads and Channels", category := "Concurrency",
      description := "spawn, join and message passing with mpsc." },
    { key := "shared_state.rs", title := "Shared State", category := "Concurrency",
      description := "Arc<Mutex<T>> counters across threads." }]

/-- The built-in entries make a catalog. -/
theorem firstFault?_builtinEntries : firstFault? [] builtinEntries = none := by decide +kernel

/-- The built-in catalog. -/
def builtin : Catalog :=
  ⟨builtinEntries, (firstFault?_eq_none_iff.1 firstFault?_builtinEntries).1,
    (firstFault?_eq_none_iff.1 firstFault?_builtinEntries).2.1⟩

end Showcase.Catalog
