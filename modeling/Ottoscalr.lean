import Ottoscalr.Basic
import Ottoscalr.Simulator
import Ottoscalr.Simulator.Lagged
import Ottoscalr.Simulator.Bounds
import Ottoscalr.Simulator.Monotone
import Ottoscalr.Search
import Ottoscalr.Search.Floors
import Ottoscalr.Policy
import Ottoscalr.Recommender
import Ottoscalr.Workflow
import Ottoscalr.Workflow.Execute
import Ottoscalr.Workflow.Order
import Ottoscalr.Workflow.Safety
