import ClassMatch.Check.Assertion
import ClassMatch.Label.Registry
import ClassMatch.Proofs.Access.Flags
import ClassMatch.Proofs.Order.Combinators
import ClassMatch.Proofs.Order.Annotations
import ClassMatch.Proofs.Order.Code
import ClassMatch.Proofs.Order.Declaration
import ClassMatch.Proofs.Label.Relabelling
import ClassMatch.Proofs.Label.Invariance
import ClassMatch.Proofs.Order.Sorting
import ClassMatch.Proofs.Order.Lawful
import ClassMatch.Proofs.Label.Resolution
import ClassMatch.Proofs.Order.Preorder
import ClassMatch.Proofs.Order.Multisets
import ClassMatch.Proofs.Bare
import ClassMatch.Proofs.Order.Antisymmetry
import ClassMatch.Proofs.Check.Agreement
import ClassMatch.Proofs.Check.OneByOne
import ClassMatch.Proofs.Check.Occurrences
import ClassMatch.Proofs.Check.Class
import ClassMatch.Proofs.Check.Surplus
import ClassMatch.Proofs.Check.Matchings
import ClassMatch.Proofs.Check.Assertion
import ClassMatch.Proofs.Label.Ordinals
import ClassMatch.Proofs.Alike.Annotations
import ClassMatch.Proofs.Alike.Code
import ClassMatch.Proofs.Alike.Method
import ClassMatch.Proofs.Alike.Renaming
import ClassMatch.Proofs.LineNumbers.Noise
import ClassMatch.Proofs.LineNumbers.Tables
import ClassMatch.Proofs.Options.Coarser
import ClassMatch.Proofs.Options.Added
import ClassMatch.Proofs.Check.Equivalence
import ClassMatch.Proofs.Check.Modes
import ClassMatch.Proofs.Permuted.Annotations
import ClassMatch.Proofs.Permuted.Class
import ClassMatch.Proofs.LineNumbers.Places
import ClassMatch.Proofs.Options.SameBut
import ClassMatch.Proofs.Options.Hidden
import ClassMatch.Proofs.Options.Declarations
import ClassMatch.Proofs.Descriptor.RoundTrip
import ClassMatch.Proofs.Check.Declared
import ClassMatch.Proofs.Check.Rendering
import ClassMatch.Proofs.Label.Fixed
import ClassMatch.Proofs.Label.Ignored
import ClassMatch.Proofs.LineNumbers.Removal
import ClassMatch.Proofs.Render.Names
import ClassMatch.Proofs.Order.Reported
import ClassMatch.Proofs.Check.Built
import ClassMatch.Proofs.Check.Crumbs
import ClassMatch.Proofs.Label.Maps
import ClassMatch.Proofs.Label.Numbering
import ClassMatch.Proofs.Access.Names
import ClassMatch.Proofs.Check.Trails
