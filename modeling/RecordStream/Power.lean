/-!
Powers of natural numbers and of integers are the built-in ones, also where other modules bring
powers of their own for all monoids.
-/

attribute [instance (high), default_instance 20000] instPowNat
