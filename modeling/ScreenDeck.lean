import ScreenDeck.Dispatch.Apply
import ScreenDeck.Dispatch.Program
import ScreenDeck.Proofs.AfterShutdown
import ScreenDeck.Proofs.Answers
import ScreenDeck.Proofs.BarNotifications
import ScreenDeck.Proofs.CallOrder
import ScreenDeck.Proofs.ChildrenInStep
import ScreenDeck.Proofs.Connections
import ScreenDeck.Proofs.CurrentBars
import ScreenDeck.Proofs.Disposal
import ScreenDeck.Proofs.Emissions
import ScreenDeck.Proofs.FailedShows
import ScreenDeck.Proofs.Generations
import ScreenDeck.Proofs.ItemIndices
import ScreenDeck.Proofs.LateSwitches
import ScreenDeck.Proofs.LostParents
import ScreenDeck.Proofs.MenuRemovals
import ScreenDeck.Proofs.Notifications
import ScreenDeck.Proofs.PageSizes
import ScreenDeck.Proofs.Records
import ScreenDeck.Proofs.RefusedNotifications
import ScreenDeck.Proofs.Removals
import ScreenDeck.Proofs.ReservedRows
import ScreenDeck.Proofs.Rotations
import ScreenDeck.Proofs.Transitions
import ScreenDeck.Property
import ScreenDeck.Session.Run
import ScreenDeck.Signal.Script
