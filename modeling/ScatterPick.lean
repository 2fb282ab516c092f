import ScatterPick.Config.Agreement
import ScatterPick.Event.Exchange
import ScatterPick.Image.Icon
import ScatterPick.Proofs.Canvas.StandIn
import ScatterPick.Proofs.Config.PartialFiles
import ScatterPick.Proofs.Config.SaveLoad
import ScatterPick.Proofs.Controller.Announcements
import ScatterPick.Proofs.Controller.Buttons
import ScatterPick.Proofs.Controller.Clicks
import ScatterPick.Proofs.Controller.Interference
import ScatterPick.Proofs.Controller.Opacity
import ScatterPick.Proofs.Controller.Redraws
import ScatterPick.Proofs.Controller.Selecting
import ScatterPick.Proofs.Controller.Timeline
import ScatterPick.Proofs.Controller.Wiring
import ScatterPick.Proofs.Event.Account
import ScatterPick.Proofs.Event.Attachment
import ScatterPick.Proofs.Event.Delivery
import ScatterPick.Proofs.Event.Handles
import ScatterPick.Proofs.Event.KeyName
import ScatterPick.Proofs.Event.Naming
import ScatterPick.Proofs.Event.Pruning
import ScatterPick.Proofs.Frame.HeldKey
import ScatterPick.Proofs.Frame.Hover
import ScatterPick.Proofs.Frame.Icons
import ScatterPick.Proofs.Frame.Recording
import ScatterPick.Proofs.Frame.Strokes
import ScatterPick.Proofs.Geometry.Convex
import ScatterPick.Proofs.Geometry.Extent
import ScatterPick.Proofs.Geometry.Fitting
import ScatterPick.Proofs.Geometry.Resting
import ScatterPick.Proofs.Hud.Placement
import ScatterPick.Proofs.Style.Grouping
import ScatterPick.Proofs.Style.Sequence
import ScatterPick.Window.Session
