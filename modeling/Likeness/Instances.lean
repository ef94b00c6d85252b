/-!
# Instances of the core library

Powers of numbers and the comparison of byte strings are those of the core library in every
module, whatever else a module imports.
-/

attribute [instance (high)] instPowNat ByteArray.instDecidableEq
attribute [default_instance (high + 1)] instPowNat
