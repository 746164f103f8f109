/-!
# Powers

The powers of natural numbers and integers are those of the core library. Where algebra brings other
instances into scope these stay in front, so a bound such as `2 ^ 64` is the same term in a
definition and in a theorem about it.
-/

attribute [instance (high), default_instance (high + 1)] instPowNat
