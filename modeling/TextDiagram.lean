import TextDiagram.CodeBlock
import TextDiagram.Command.Program
import TextDiagram.ConfigFile
import TextDiagram.Diagram
import TextDiagram.Journal.Drawing
import TextDiagram.Layout
import TextDiagram.Main
import TextDiagram.Picture
import TextDiagram.Proofs.Figure.Arrow
import TextDiagram.Proofs.Flow.Grid
import TextDiagram.Proofs.Flow.History
import TextDiagram.Proofs.Flow.Layout
import TextDiagram.Proofs.Statement
import TextDiagram.Proofs.Flow.Cut
import TextDiagram.Proofs.Flow.Token
import TextDiagram.Proofs.Flow.Writing
import TextDiagram.Proofs.Text.Fit
import TextDiagram.Proofs.Sequence.Statement
import TextDiagram.Proofs.Sequence.Writing
import TextDiagram.Proofs.Except
import TextDiagram.Proofs.Svg.Sketch
import TextDiagram.Proofs.Picture
import TextDiagram.Proofs.Command.Fallback
import TextDiagram.Proofs.Plane
import TextDiagram.Proofs.Flow.Arrow
import TextDiagram.Proofs.Flow.Mirror
import TextDiagram.Proofs.Sequence.History
import TextDiagram.Proofs.Sequence.Layout
import TextDiagram.Proofs.Diagram
import TextDiagram.Proofs.Rendering
import TextDiagram.Proofs.Census
import TextDiagram.Proofs.Outline
import TextDiagram.Proofs.Text.Collapsed
import TextDiagram.Proofs.Flow.WellFormed
import TextDiagram.Proofs.Sequence.WellFormed
import TextDiagram.Proofs.WellFormed
import TextDiagram.Proofs.Flow.Growth
import TextDiagram.Proofs.Growth
import TextDiagram.Proofs.Spacing
import TextDiagram.Proofs.Flow.Reordering
import TextDiagram.Proofs.CodeBlock
import TextDiagram.Proofs.Svg.Closing
import TextDiagram.Proofs.Background
import TextDiagram.Proofs.Text.Marked
import TextDiagram.Proofs.Flow.ShownLabel
import TextDiagram.Proofs.Command.Inputs
import TextDiagram.Proofs.Flow.Quotes
import TextDiagram.Proofs.Text.Reflow
import TextDiagram.Proofs.Flow.LabelBlock
import TextDiagram.Proofs.Command.Markup
import TextDiagram.Proofs.Flow.GridArithmetic
import TextDiagram.Proofs.Flow.Leftmost
