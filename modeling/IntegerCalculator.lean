import IntegerCalculator.Calculation
import IntegerCalculator.Event
import IntegerCalculator.Window.Screen
import IntegerCalculator.Proofs.Concatenation
import IntegerCalculator.Proofs.Evaluation
import IntegerCalculator.Proofs.Grammar
import IntegerCalculator.Proofs.Meaning
import IntegerCalculator.Proofs.FirstFault
import IntegerCalculator.Proofs.RoundTrip
import IntegerCalculator.Proofs.Groups
import IntegerCalculator.Proofs.Bracketing
import IntegerCalculator.Proofs.Merging
import IntegerCalculator.Proofs.Sentences
import IntegerCalculator.Proofs.Precedence
import IntegerCalculator.Proofs.Consistency
import IntegerCalculator.Proofs.Typing
import IntegerCalculator.Proofs.Explanation
import IntegerCalculator.Proofs.FoldCount
import IntegerCalculator.Proofs.Failure
import IntegerCalculator.Proofs.Observation
import IntegerCalculator.Proofs.Moments
import IntegerCalculator.Proofs.History
import IntegerCalculator.Proofs.Keyboard
import IntegerCalculator.Proofs.Verdict
import IntegerCalculator.Proofs.FoldOrder
import IntegerCalculator.Proofs.ShownFolds
import IntegerCalculator.Proofs.Listing
import IntegerCalculator.Proofs.Comparison
import IntegerCalculator.Proofs.Legibility
import IntegerCalculator.Proofs.TakingBack
import IntegerCalculator.Proofs.Atomicity
import IntegerCalculator.Proofs.Height
import IntegerCalculator.Proofs.Numerals
import IntegerCalculator.Proofs.Stretches
